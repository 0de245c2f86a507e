import Cpv.StaticFile.Model

namespace cpv

namespace HttpServerRequestStaticFileReplier

/-- Nothing to read is taken for an unexpected end of the file. -/
theorem replyChunks_zero (sizes : ReadSizes) (rounds : Nat) (stream : FileInputStream)
    (written : List SharedString) : replyChunks sizes rounds stream 0 written = (written, false) := by
  cases rounds with
  | zero => rfl
  | succ rounds =>
    have hsize := sizes.le_requested stream.position 0 (stream.content.length - stream.position)
    simp only [replyChunks, FileInputStream.read_up_to, Nat.zero_min, List.length_take]
    rw [if_pos (by omega)]

/-- However the reads are split, the loop writes exactly the bytes it was asked
    for, if there are any. -/
theorem replyChunks_spec (sizes : ReadSizes) (stream : FileInputStream) {rounds remainSize : Nat}
    (hrounds : remainSize < rounds) (hpos : 0 < remainSize)
    (hrest : remainSize ≤ stream.content.length - stream.position) (written : List SharedString) :
    ∃ chunks, replyChunks sizes rounds stream remainSize written = (written ++ chunks, true) ∧
      chunks.flatten = (stream.content.drop stream.position).take remainSize := by
  induction rounds generalizing stream remainSize written with
  | zero => omega
  | succ rounds ih =>
    set size := sizes.size stream.position (min remainSize ReadFileChunkSize)
      (stream.content.length - stream.position) with hsize
    have hchunk : 0 < ReadFileChunkSize := by decide
    have hsizePos : 0 < size := sizes.pos _ _ _ (by omega) (by omega)
    have hsizeLe : size ≤ min remainSize ReadFileChunkSize := sizes.le_requested _ _ _
    have hlength : ((stream.content.drop stream.position).take size).length = size := by
      rw [List.length_take, List.length_drop]
      omega
    simp only [replyChunks, FileInputStream.read_up_to, ← hsize, hlength]
    rw [if_neg (by omega)]
    split
    · rename_i hlast
      refine ⟨[(stream.content.drop stream.position).take size], rfl, ?_⟩
      rw [show size = remainSize by omega]
      simp
    · rename_i hmore
      have hskip : remainSize - size ≤ (stream.skip size).content.length - (stream.skip size).position := by
        simp only [FileInputStream.skip]
        omega
      obtain ⟨chunks, hchunks, hflatten⟩ := ih (stream.skip size) (by omega) (by omega) hskip
        (written ++ [(stream.content.drop stream.position).take size])
      refine ⟨(stream.content.drop stream.position).take size :: chunks, ?_, ?_⟩
      · rw [hchunks, List.append_assoc]
        rfl
      · rw [List.flatten_cons, hflatten]
        simp only [FileInputStream.skip]
        rw [← List.drop_drop, ← List.take_add]
        congr 1
        omega

/-- A replier executes once where it finds a regular file. -/
theorem execute_of_regular {environment : FileEnvironment} {replier : HttpServerRequestStaticFileReplier}
    {content : SharedString} {mtime : Int}
    (hentry : environment.entry replier.getPath = some (.regular content mtime)) (sizes : ReadSizes)
    (data : HttpServerRequestStaticFileHandlerData) (response : HttpResponse) :
    replier.execute environment sizes data response =
      (replier.replyFile environment sizes data response content mtime).after
        [.file_type replier.getPath, .open_file replier.getPath] := by
  have hfile : environment.isFile replier.getPath = true := by
    rw [FileEnvironment.isFile, hentry]
  simp only [execute, executeOnce, hfile, hentry]
  rfl

end HttpServerRequestStaticFileReplier

theorem getHeader_setHeader_contentRange (headers : HttpResponseHeaders) (value : SharedString) :
    (headers.setHeader constants.ContentRange value).getHeader constants.ContentRange = value := by
  have hremain : HttpResponseHeaders.FixedMembers.find? (·.key == constants.ContentRange) = none := by decide
  simp [HttpResponseHeaders.setHeader, HttpResponseHeaders.getHeader, hremain]

/-- The reply to a request for a file: the range of its bytes that was asked for,
    cut at the end of the file, else the whole file. -/
def Serves (content : SharedString) (range : Option (Nat × Nat)) (outcome : StaticFileOutcome) : Prop :=
  ∃ response body, outcome = .replied response body ∧
    match range.filter fun range => range.1 < content.length ∧ range.1 ≤ range.2 with
    | some (first, last) =>
      let last := min last (content.length - 1)
      body.flatten = (content.drop first).take (last + 1 - first) ∧
        response.statusCode = constants._206 ∧
        response.headers.getHeader constants.ContentRange =
          text "bytes " ++ fromInt first ++ text "-" ++ fromInt last ++ text "/" ++ fromInt content.length ∧
        response.headers.contentLength = fromInt body.flatten.length
    | none =>
      body.flatten = content ∧ response.statusCode = constants._200 ∧
        response.headers.contentLength = fromInt content.length

/-- A file that is neither unmodified nor cached is served as it was asked for
    exactly if it is not empty. -/
theorem execute_serves_iff {environment : FileEnvironment} {replier : HttpServerRequestStaticFileReplier}
    {content : SharedString} {mtime : Int} {data : HttpServerRequestStaticFileHandlerData}
    (hentry : environment.entry replier.getPath = some (.regular content mtime))
    (hmodified : replier.ifModifiedSinceHeader ≠ environment.formatTimeForHttpHeader mtime)
    (huncached : ¬ (content.length ≤ data.maxCacheFileSize ∧ 0 < data.fileCache.maxSize ∧ replier.range = none))
    (sizes : ReadSizes) (response : HttpResponse) :
    Serves content replier.range (replier.execute environment sizes data response).outcome ↔ content ≠ [] := by
  rw [HttpServerRequestStaticFileReplier.execute_of_regular hentry]
  simp only [StaticFileResult.after, HttpServerRequestStaticFileReplier.replyFile, if_neg hmodified,
    if_neg huncached, Serves]
  cases hrange : replier.range.filter fun range => range.1 < content.length ∧ range.1 ≤ range.2 with
  | none =>
    by_cases hempty : content = []
    · subst hempty
      simp [HttpServerRequestStaticFileReplier.replyChunks_zero]
    · have hpos : 0 < content.length := List.length_pos_iff.mpr hempty
      obtain ⟨chunks, hchunks, hflatten⟩ := HttpServerRequestStaticFileReplier.replyChunks_spec sizes
        { content } (Nat.lt_succ_self content.length) hpos (Nat.le_refl _) []
      simp only [hchunks]
      refine iff_of_true ⟨_, _, rfl, ?_, rfl, rfl⟩ hempty
      simpa using hflatten
  | some bounds =>
    obtain ⟨first, last⟩ := bounds
    obtain ⟨-, hbounds⟩ := Option.filter_eq_some_iff.mp hrange
    simp only [decide_eq_true_eq] at hbounds
    obtain ⟨hfirst, hle⟩ := hbounds
    have hempty : content ≠ [] := List.length_pos_iff.mp (by omega)
    obtain ⟨chunks, hchunks, hflatten⟩ := HttpServerRequestStaticFileReplier.replyChunks_spec sizes
      (FileInputStream.skip { content } first) (Nat.lt_succ_self (min last (content.length - 1) - first + 1))
      (Nat.succ_pos _) (by simp only [FileInputStream.skip]; omega) []
    have hsize : min last (content.length - 1) - first + 1 = min last (content.length - 1) + 1 - first := by omega
    simp only [FileInputStream.skip, Nat.zero_add] at hchunks hflatten ⊢
    simp only [hchunks]
    have hlength : chunks.flatten.length = min last (content.length - 1) - first + 1 := by
      rw [hflatten, List.length_take, List.length_drop]
      omega
    refine iff_of_true ⟨_, _, rfl, ?_, rfl, ?_, ?_⟩ hempty
    · rw [List.nil_append, hflatten, hsize]
    · exact getHeader_setHeader_contentRange _ _
    · rw [List.nil_append, hlength]

/-- A file system with one file. -/
def oneFile (content : SharedString) : FileEnvironment where
  entry path := if path = text "/srv/f.txt" then some (.regular content 0) else none
  formatTimeForHttpHeader _ := text "Thu, 01 Jan 1970 00:00:00 GMT"
  MimeMapping _ := some (text "text/plain")

def oneFileReplier (range : Option (Nat × Nat)) : HttpServerRequestStaticFileReplier where
  filePath := text "/srv/f.txt"
  compressedPath := text "/srv/f.txt.gz"
  supportCompress := false
  range
  mimeType := text "text/plain"
  ifModifiedSinceHeader := []

def uncachedData : HttpServerRequestStaticFileHandlerData :=
  .new (text "/static") (text "/srv") (text "public") 0 1048576

theorem execute_serves_iff_halfRange :
    Serves (text "abc") (some (1, 5)) ((oneFileReplier (some (1, 5))).execute (oneFile (text "abc"))
      ReadSizes.whole uncachedData {}).outcome ↔ text "abc" ≠ [] := by
  have hentry : (oneFile (text "abc")).entry (oneFileReplier (some (1, 5))).getPath =
      some (.regular (text "abc") 0) := rfl
  have hmodified : (oneFileReplier (some (1, 5))).ifModifiedSinceHeader ≠
      (oneFile (text "abc")).formatTimeForHttpHeader 0 := by decide
  exact execute_serves_iff hentry hmodified (by decide) ReadSizes.whole {}

/-- The empty file fails the request after its response headers were set. -/
theorem emptyFile_not_served :
    ¬ Serves [] none ((oneFileReplier none).execute (oneFile []) ReadSizes.whole uncachedData {}).outcome := by
  rintro ⟨response, body, houtcome, -⟩
  cases houtcome

end cpv
