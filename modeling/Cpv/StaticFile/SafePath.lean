import Cpv.StaticFile.Model

namespace cpv

/-- The paths a replier uses are the two it was made for. -/
theorem HttpServerRequestStaticFileReplier.execute_uses (environment : FileEnvironment) (sizes : ReadSizes)
    (replier : HttpServerRequestStaticFileReplier) (data : HttpServerRequestStaticFileHandlerData)
    (response : HttpResponse) :
    ∀ use ∈ (replier.execute environment sizes data response).uses,
      use.path = replier.filePath ∨ use.path = replier.compressedPath := by
  have hpath (replier : HttpServerRequestStaticFileReplier) :
      replier.getPath = replier.filePath ∨ replier.getPath = replier.compressedPath := by
    unfold getPath
    split
    · exact .inr rfl
    · exact .inl rfl
  have hfile (replier : HttpServerRequestStaticFileReplier) (content : SharedString) (mtime : Int) :
      ∀ use ∈ (replier.replyFile environment sizes data response content mtime).uses,
        use.path = replier.getPath := by
    intro use huse
    unfold replyFile at huse
    grind [PathUse.path]
  have honce (again : HttpServerRequestStaticFileReplier → StaticFileResult)
      (replier : HttpServerRequestStaticFileReplier) :
      ∀ use ∈ (replier.executeOnce environment sizes data response again).uses, use.path = replier.getPath ∨
        use ∈ (again { replier with supportCompress := false, noCompressedVersion := true }).uses := by
    intro use huse
    simp only [executeOnce, StaticFileResult.after, List.singleton_append, List.mem_cons] at huse
    obtain rfl | huse := huse
    · exact .inl rfl
    · split at huse
      · split at huse
        · exact .inr huse
        · cases huse
      · obtain rfl | huse := List.mem_cons.mp huse
        · exact .inl rfl
        · split at huse
          · exact .inl (hfile _ _ _ use huse)
          · cases huse
  intro use huse
  obtain heq | huse := honce _ replier use huse
  · rw [heq]
    exact hpath replier
  · obtain heq | huse := honce _ _ use huse
    · rw [heq]
      exact hpath _
    · cases huse

/-- A lookup uses the two paths of the request. -/
theorem replyFromCache_uses (data : HttpServerRequestStaticFileHandlerData) (response : HttpResponse)
    (compressedPath filePath mimeType ifModifiedSinceHeader : SharedString) (supportCompress : Bool) :
    ∀ use ∈ (replyFromCache data response compressedPath filePath mimeType ifModifiedSinceHeader
        supportCompress).2.1, use.path = filePath ∨ use.path = compressedPath := by
  intro use huse
  unfold replyFromCache at huse
  grind [PathUse.path]

/-- A path below a base: a safe relative path behind it, perhaps with the suffix
    of compressed files. -/
def InsideBase (base path : SharedString) : Prop :=
  ∃ relPath, relPath ≠ [] ∧ StaysBelow relPath ∧
    (path = base ++ relPath ∨ path = base ++ relPath ++ CompressedFileSuffix) ∧
    StaysBelow (path.drop base.length)

/-- The suffix of compressed files makes no component "..". -/
theorem StaysBelow.append_suffix {path : SharedString} (hpath : StaysBelow path) :
    StaysBelow (path ++ CompressedFileSuffix) := by
  obtain ⟨hcomponents, hbytes⟩ := hpath
  refine ⟨fun hmem => hcomponents ?_, ?_⟩
  · -- the suffix only lengthens the last component
    suffices h : ∀ (read : SharedString),
        text ".." ∈ (path ++ CompressedFileSuffix).splitOnPPrepend (fun c => c == byte '/' || c == byte '\\') read →
          text ".." ∈ path.splitOnPPrepend (fun c => c == byte '/' || c == byte '\\') read from h [] hmem
    intro read hread
    clear hmem hcomponents hbytes
    induction path generalizing read with
    | nil =>
      have hsuffix : CompressedFileSuffix.splitOnPPrepend (fun c => c == byte '/' || c == byte '\\') read =
          [(byte 'z' :: byte 'g' :: byte '.' :: read).reverse] := rfl
      rw [List.nil_append, hsuffix, List.mem_singleton] at hread
      have hreversed := congrArg List.reverse hread
      rw [List.reverse_reverse] at hreversed
      have hz : byte '.' = byte 'z' := (List.cons.inj hreversed).1
      exact absurd hz (by decide)
    | cons c path ih =>
      rw [List.cons_append, List.splitOnPPrepend_cons_eq_if] at hread
      rw [List.splitOnPPrepend_cons_eq_if]
      split at hread
      · rename_i hseparator
        rw [if_pos hseparator]
        obtain heq | hread := List.mem_cons.mp hread
        · exact List.mem_cons.mpr (.inl heq)
        · exact List.mem_cons_of_mem _ (ih [] hread)
      · rename_i hseparator
        rw [if_neg hseparator]
        exact ih _ hread
  · intro c hc
    obtain hc | hc := List.mem_append.mp hc
    · exact hbytes c hc
    · have hsuffix : ∀ c ∈ CompressedFileSuffix, c ≠ 0 ∧ c ≠ byte '\r' ∧ c ≠ byte '\n' := by decide +kernel
      exact hsuffix c hc

theorem InsideBase.of_relPath (base : SharedString) {relPath : SharedString} (hne : relPath ≠ [])
    (hsafe : isSafePath relPath = true) : InsideBase base (base ++ relPath) := by
  have hbelow := isSafePath_staysBelow hsafe
  exact ⟨relPath, hne, hbelow, .inl rfl, by rwa [List.drop_left]⟩

theorem InsideBase.of_compressed (base : SharedString) {relPath : SharedString} (hne : relPath ≠ [])
    (hsafe : isSafePath relPath = true) : InsideBase base (base ++ relPath ++ CompressedFileSuffix) := by
  have hbelow := isSafePath_staysBelow hsafe
  refine ⟨relPath, hne, hbelow, .inr rfl, ?_⟩
  rw [List.append_assoc, List.drop_left]
  exact hbelow.append_suffix

/-- A base always ends with a slash. -/
theorem endsWith_withSlash (base : SharedString) : endsWith (withSlash base) constants.Slash = true := by
  unfold withSlash
  split
  · assumption
  · exact List.isSuffixOf_iff_suffix.mpr (List.suffix_append _ _)

/-- Serving a file uses the file's path and that of its compressed version. -/
theorem handleFile_uses (environment : FileEnvironment) (sizes : ReadSizes)
    (data : HttpServerRequestStaticFileHandlerData) (request : HttpRequest) (response : HttpResponse)
    (relPath : SharedString) :
    ∀ use ∈ (data.handleFile environment sizes request response relPath).uses,
      use.path = data.pathBase ++ relPath ∨ use.path = data.pathBase ++ relPath ++ CompressedFileSuffix := by
  intro use huse
  simp only [HttpServerRequestStaticFileHandlerData.handleFile,
    HttpServerRequestStaticFileHandlerData.filePath_eq] at huse
  generalize hfound : (if 0 < data.fileCache.maxSize ∧ request.headers.getHeader constants.Range = [] then
    replyFromCache data response (data.pathBase ++ relPath ++ CompressedFileSuffix) (data.pathBase ++ relPath)
      (getMimeType environment relPath) (request.headers.getHeader constants.IfModifiedSince)
      (containsText request.headers.acceptEncoding CompressEncoding)
    else (data.fileCache, [], none)) = found at huse
  have hcache : ∀ use ∈ found.2.1,
      use.path = data.pathBase ++ relPath ∨ use.path = data.pathBase ++ relPath ++ CompressedFileSuffix := by
    subst hfound
    split
    · exact replyFromCache_uses _ _ _ _ _ _ _
    · intro use huse
      cases huse
  split at huse
  · exact hcache use huse
  · obtain huse | huse := List.mem_append.mp huse
    · exact hcache use huse
    · exact HttpServerRequestStaticFileReplier.execute_uses _ _ _ _ _ use huse

/-- Whatever a request asks for, whatever the cache holds and whatever is found
    in the file system, the handler uses paths below its base only. -/
theorem handle_insideBase (urlBase pathBase cacheControl : SharedString)
    (maxCacheFileEntities maxCacheFileSize : Nat) (fileCache : LRUCache SharedString FileCacheEntry)
    (environment : FileEnvironment) (sizes : ReadSizes) (request : HttpRequest) (response : HttpResponse) :
    let data := { HttpServerRequestStaticFileHandlerData.new urlBase pathBase cacheControl
      maxCacheFileEntities maxCacheFileSize with fileCache }
    endsWith data.pathBase constants.Slash = true ∧
      ∀ use ∈ (data.handle environment sizes request response).uses, InsideBase data.pathBase use.path := by
  intro data
  refine ⟨endsWith_withSlash pathBase, ?_⟩
  intro use huse
  rw [HttpServerRequestStaticFileHandlerData.handle_eq] at huse
  split at huse
  · rename_i relPath hrelPath
    obtain ⟨hne, hsafe⟩ := HttpServerRequestStaticFileHandlerData.relPath_spec hrelPath
    obtain hpath | hpath := handleFile_uses environment sizes data request response _ use huse
    · rw [hpath]
      exact InsideBase.of_relPath data.pathBase hne hsafe
    · rw [hpath]
      exact InsideBase.of_compressed data.pathBase hne hsafe
  · cases huse

end cpv
