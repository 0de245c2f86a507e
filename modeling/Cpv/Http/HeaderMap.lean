import Cpv.Connection.Response

namespace cpv

/-- A header collection: members for some of the keys, each apart from the others, and a map for the rest. -/
structure HeaderCollection (Headers : Type) where
  fixedMembers : List (FixedMember Headers)
  remainHeaders : Headers → StringMap SharedString
  withRemainHeaders : Headers → StringMap SharedString → Headers
  keys_nodup : (fixedMembers.map FixedMember.key).Nodup
  get_set : ∀ member ∈ fixedMembers, ∀ fixed ∈ fixedMembers, ∀ headers value,
    member.get (fixed.set headers value) = if fixed.key = member.key then value else member.get headers
  get_withRemainHeaders : ∀ member ∈ fixedMembers, ∀ headers remain,
    member.get (withRemainHeaders headers remain) = member.get headers
  remainHeaders_set : ∀ fixed ∈ fixedMembers, ∀ headers value,
    remainHeaders (fixed.set headers value) = remainHeaders headers
  remainHeaders_withRemainHeaders : ∀ headers remain, remainHeaders (withRemainHeaders headers remain) = remain

namespace HeaderCollection

variable {Headers : Type} (collection : HeaderCollection Headers)

/-- The member that a key is looked up in. -/
def fixedMember (key : SharedString) : Option (FixedMember Headers) :=
  collection.fixedMembers.find? (·.key == key)

def setHeader (headers : Headers) (key value : SharedString) : Headers :=
  match collection.fixedMember key with
  | some fixed => fixed.set headers value
  | none => collection.withRemainHeaders headers ((collection.remainHeaders headers).insert key value)

def getHeader (headers : Headers) (key : SharedString) : SharedString :=
  match collection.fixedMember key with
  | some fixed => fixed.get headers
  | none => ((collection.remainHeaders headers).lookup key).getD []

def removeHeader (headers : Headers) (key : SharedString) : Headers :=
  match collection.fixedMember key with
  | some fixed => fixed.set headers []
  | none => collection.withRemainHeaders headers ((collection.remainHeaders headers).erase key)

/-- The pairs of the members that are not empty, and those of the map. -/
def pairs (headers : Headers) : List (SharedString × SharedString) :=
  collection.fixedMembers.flatMap (fun fixed => memberPair fixed.key (fixed.get headers)) ++
    (StringMap.ordered (collection.remainHeaders headers)).map fun pair => (pair.1, pair.2)

/-- No key of a member is in the map. -/
def KeysApart (headers : Headers) : Prop :=
  ∀ fixed ∈ collection.fixedMembers, fixed.key ∉ collection.remainHeaders headers

section Lookup

variable {collection}

theorem fixedMember_eq_some {key : SharedString} {fixed : FixedMember Headers}
    (hfixed : collection.fixedMember key = some fixed) : fixed ∈ collection.fixedMembers ∧ fixed.key = key :=
  ⟨List.mem_of_find?_eq_some hfixed, by simpa using List.find?_some hfixed⟩

theorem fixedMember_eq_none {key : SharedString} (hnone : collection.fixedMember key = none)
    {fixed : FixedMember Headers} (hfixed : fixed ∈ collection.fixedMembers) : fixed.key ≠ key := by
  simpa using List.find?_eq_none.mp hnone fixed hfixed

end Lookup

theorem getHeader_set {fixed : FixedMember Headers} (hfixed : fixed ∈ collection.fixedMembers) (headers : Headers)
    (value key : SharedString) :
    collection.getHeader (fixed.set headers value) key = if fixed.key = key then value else collection.getHeader headers key := by
  unfold getHeader
  cases hmember : collection.fixedMember key with
  | some member =>
    obtain ⟨hmem, rfl⟩ := fixedMember_eq_some hmember
    exact collection.get_set member hmem fixed hfixed headers value
  | none =>
    rw [if_neg (fixedMember_eq_none hmember hfixed)]
    simp only [collection.remainHeaders_set fixed hfixed]

/-- What is changed in the map is what the keys of the map get. -/
theorem getHeader_withRemainHeaders {headers : Headers} {name : SharedString} (hname : collection.fixedMember name = none)
    {value : Option SharedString} {remain : StringMap SharedString} (hself : remain.lookup name = value)
    (hother : ∀ key, key ≠ name → remain.lookup key = (collection.remainHeaders headers).lookup key)
    (key : SharedString) :
    collection.getHeader (collection.withRemainHeaders headers remain) key =
      if name = key then value.getD [] else collection.getHeader headers key := by
  unfold getHeader
  cases hfixed : collection.fixedMember key with
  | some fixed =>
    have hne : name ≠ key := by
      rintro rfl
      rw [hname] at hfixed
      cases hfixed
    rw [if_neg hne]
    exact collection.get_withRemainHeaders fixed (fixedMember_eq_some hfixed).1 headers remain
  | none =>
    simp only [collection.remainHeaders_withRemainHeaders]
    by_cases hkey : name = key
    · rw [if_pos hkey, ← hkey, hself]
    · rw [if_neg hkey, hother key (Ne.symm hkey)]

theorem getHeader_setHeader (headers : Headers) (name value key : SharedString) :
    collection.getHeader (collection.setHeader headers name value) key =
      if name = key then value else collection.getHeader headers key := by
  unfold setHeader
  cases hfixed : collection.fixedMember name with
  | some fixed =>
    obtain ⟨hmem, rfl⟩ := fixedMember_eq_some hfixed
    exact collection.getHeader_set hmem headers value key
  | none =>
    exact collection.getHeader_withRemainHeaders hfixed (AList.lookup_insert _) (fun other hne => AList.lookup_insert_ne hne) key

theorem getHeader_removeHeader (headers : Headers) (name key : SharedString) :
    collection.getHeader (collection.removeHeader headers name) key =
      if name = key then [] else collection.getHeader headers key := by
  unfold removeHeader
  cases hfixed : collection.fixedMember name with
  | some fixed =>
    obtain ⟨hmem, rfl⟩ := fixedMember_eq_some hfixed
    exact collection.getHeader_set hmem headers [] key
  | none =>
    exact collection.getHeader_withRemainHeaders hfixed (AList.lookup_erase name _) (fun other hne => AList.lookup_erase_ne hne) key

theorem getHeader_congr {headers headers' : Headers}
    (hmembers : ∀ fixed ∈ collection.fixedMembers, fixed.get headers = fixed.get headers')
    (hremain : collection.remainHeaders headers = collection.remainHeaders headers') (key : SharedString) :
    collection.getHeader headers key = collection.getHeader headers' key := by
  unfold getHeader
  cases hfixed : collection.fixedMember key with
  | some fixed => exact hmembers fixed (fixedMember_eq_some hfixed).1
  | none => simp only [hremain]

/-- Empty members and an empty map have no header. -/
theorem getHeader_of_empty {headers : Headers} (hmembers : ∀ fixed ∈ collection.fixedMembers, fixed.get headers = [])
    (hremain : collection.remainHeaders headers = ∅) (key : SharedString) : collection.getHeader headers key = [] := by
  unfold getHeader
  cases hfixed : collection.fixedMember key with
  | some fixed => exact hmembers fixed (fixedMember_eq_some hfixed).1
  | none =>
    simp only [hremain]
    rfl

section KeysApart

variable {collection} {headers : Headers}

theorem KeysApart.set (hapart : collection.KeysApart headers) {fixed : FixedMember Headers}
    (hfixed : fixed ∈ collection.fixedMembers) (value : SharedString) :
    collection.KeysApart (fixed.set headers value) := by
  intro member hmember
  rw [collection.remainHeaders_set fixed hfixed]
  exact hapart member hmember

theorem KeysApart.setHeader (hapart : collection.KeysApart headers) (key value : SharedString) :
    collection.KeysApart (collection.setHeader headers key value) := by
  unfold HeaderCollection.setHeader
  cases hfixed : collection.fixedMember key with
  | some fixed => exact hapart.set (fixedMember_eq_some hfixed).1 value
  | none =>
    intro member hmember
    rw [collection.remainHeaders_withRemainHeaders, AList.mem_insert, not_or]
    exact ⟨fixedMember_eq_none hfixed hmember, hapart member hmember⟩

theorem KeysApart.removeHeader (hapart : collection.KeysApart headers) (key : SharedString) :
    collection.KeysApart (collection.removeHeader headers key) := by
  unfold HeaderCollection.removeHeader
  cases hfixed : collection.fixedMember key with
  | some fixed => exact hapart.set (fixedMember_eq_some hfixed).1 []
  | none =>
    intro member hmember
    rw [collection.remainHeaders_withRemainHeaders, AList.mem_erase]
    exact fun h => hapart member hmember h.2

theorem map_fst_memberPairs (members : List (FixedMember Headers)) (headers : Headers) :
    (members.flatMap fun fixed => memberPair fixed.key (fixed.get headers)).map Prod.fst =
      (members.filter fun fixed => fixed.get headers ≠ []).map FixedMember.key := by
  induction members with
  | nil => rfl
  | cons fixed members ih =>
    rw [List.flatMap_cons, List.map_append, ih, memberPair]
    by_cases hempty : fixed.get headers = [] <;> simp [hempty]

/-- Every key has one pair at most. -/
theorem KeysApart.pairs_nodup (hapart : collection.KeysApart headers) :
    ((collection.pairs headers).map Prod.fst).Nodup := by
  have hkeys : ((StringMap.ordered (collection.remainHeaders headers)).map fun pair => (pair.1, pair.2)).map Prod.fst =
      (StringMap.ordered (collection.remainHeaders headers)).map Sigma.fst := by
    rw [List.map_map]
    rfl
  have hperm := (StringMap.ordered_perm (collection.remainHeaders headers)).map Sigma.fst
  have hsub := (List.filter_sublist (p := fun fixed => fixed.get headers ≠ []) (l := collection.fixedMembers)).map
    FixedMember.key
  rw [pairs, List.map_append, map_fst_memberPairs, hkeys, List.nodup_append']
  refine ⟨collection.keys_nodup.sublist hsub, hperm.nodup_iff.mpr (collection.remainHeaders headers).nodupKeys, ?_⟩
  intro key hmember hremain
  obtain ⟨fixed, hfixed, rfl⟩ := List.mem_map.mp (hsub.subset hmember)
  exact hapart fixed hfixed (AList.mem_keys.mpr (hperm.mem_iff.mp hremain))

end KeysApart

end HeaderCollection

/-- What is written for a pair -/
def pairLine (pair : SharedString × SharedString) : SharedString :=
  constants.CRLF ++ pair.1 ++ constants.ColonSpace ++ pair.2

theorem flatten_memberLine {crlfKeyColonSpace key : SharedString}
    (hkey : crlfKeyColonSpace = constants.CRLF ++ key ++ constants.ColonSpace) (value : SharedString) :
    (memberLine crlfKeyColonSpace value).flatten = (memberPair key value).flatMap pairLine := by
  unfold memberLine memberPair
  split
  · simp [hkey, pairLine]
  · rfl

theorem flatten_headerLines (pairs : List (SharedString × SharedString)) :
    (pairs.flatMap fun pair => headerLine pair.1 pair.2).flatten = pairs.flatMap pairLine := by
  induction pairs with
  | nil => rfl
  | cons pair pairs ih =>
    rw [List.flatMap_cons, List.flatten_append, ih]
    simp [headerLine, pairLine]

/-- What a call does to the headers as one map. -/
inductive HeaderWrite
  | assign (key value : SharedString)
  | clear
  | none

/-- The value that a write leaves at a key, if it concerns the key. -/
def HeaderWrite.valueAt (key : SharedString) : HeaderWrite → Option SharedString
  | assign name value => if name = key then some value else Option.none
  | clear => some []
  | none => Option.none

theorem HeaderWrite.getD_valueAt_assign (name value key old : SharedString) :
    ((assign name value).valueAt key).getD old = if name = key then value else old := by
  rw [valueAt]
  split <;> rfl

/-- The value written last at a key, empty if there is none. -/
def writtenValue (writes : List HeaderWrite) (key : SharedString) : SharedString :=
  (writes.reverse.findSome? (HeaderWrite.valueAt key)).getD []

theorem writtenValue_concat (writes : List HeaderWrite) (write : HeaderWrite) (key : SharedString) :
    writtenValue (writes ++ [write]) key = (write.valueAt key).getD (writtenValue writes key) := by
  rw [writtenValue, List.reverse_append, List.reverse_singleton, List.singleton_append, List.findSome?_cons]
  cases write.valueAt key <;> rfl

/-- Calls that change the headers as they change the map leave in the end what was written last. -/
theorem foldl_eq_writtenValue {Headers Call : Type} {apply : Headers → Call → Headers} {write : Call → HeaderWrite}
    {get : Headers → SharedString → SharedString}
    (happly : ∀ headers call key, get (apply headers call) key = ((write call).valueAt key).getD (get headers key))
    {headers : Headers} (hempty : ∀ key, get headers key = []) (calls : List Call) (key : SharedString) :
    get (calls.foldl apply headers) key = writtenValue (calls.map write) key := by
  induction calls using List.reverseRecOn with
  | nil => exact hempty key
  | append_singleton calls call ih =>
    rw [List.foldl_append, List.foldl_cons, List.foldl_nil, happly, ih, List.map_append, List.map_singleton,
      writtenValue_concat]

/-- A call on the headers of a http request -/
inductive HttpRequestHeadersCall
  | setHeader (key value : SharedString)
  | removeHeader (key : SharedString)
  | setHost (value : SharedString)
  | setContentType (value : SharedString)
  | setContentLength (value : SharedString)
  | setConnection (value : SharedString)
  | setPragma (value : SharedString)
  | setUpgradeInsecureRequests (value : SharedString)
  | setDNT (value : SharedString)
  | setUserAgent (value : SharedString)
  | setAccept (value : SharedString)
  | setAcceptEncoding (value : SharedString)
  | setAcceptLanguage (value : SharedString)
  | setCookie (value : SharedString)
  | setXRequestedWith (value : SharedString)
  | clear

namespace HttpRequestHeaders

def collection : HeaderCollection HttpRequestHeaders where
  fixedMembers := FixedMembers
  remainHeaders := remainHeaders
  withRemainHeaders headers remainHeaders := { headers with remainHeaders }
  keys_nodup := by decide +kernel
  get_set := fixedMembers_get_set
  get_withRemainHeaders := by simp [FixedMembers]
  remainHeaders_set := by simp [FixedMembers]
  remainHeaders_withRemainHeaders _ _ := rfl

theorem collection_fixedMember (key : SharedString) :
    collection.fixedMember key = FixedMembers.find? (·.key == key) := rfl

theorem collection_getHeader (headers : HttpRequestHeaders) (key : SharedString) :
    collection.getHeader headers key = headers.getHeader key := by
  unfold HeaderCollection.getHeader getHeader
  rw [collection_fixedMember]
  cases FixedMembers.find? (·.key == key) <;> rfl

theorem collection_setHeader (headers : HttpRequestHeaders) (key value : SharedString) :
    collection.setHeader headers key value = headers.setHeader key value := by
  unfold HeaderCollection.setHeader setHeader
  rw [collection_fixedMember]
  cases FixedMembers.find? (·.key == key) <;> rfl

theorem collection_removeHeader (headers : HttpRequestHeaders) (key : SharedString) :
    collection.removeHeader headers key = headers.removeHeader key := by
  unfold HeaderCollection.removeHeader removeHeader
  rw [collection_fixedMember]
  cases FixedMembers.find? (·.key == key) <;> rfl

/-- The headers after a call -/
def apply (headers : HttpRequestHeaders) : HttpRequestHeadersCall → HttpRequestHeaders
  | .setHeader key value => headers.setHeader key value
  | .removeHeader key => headers.removeHeader key
  | .setHost value => headers.setHost value
  | .setContentType value => headers.setContentType value
  | .setContentLength value => headers.setContentLength value
  | .setConnection value => headers.setConnection value
  | .setPragma value => headers.setPragma value
  | .setUpgradeInsecureRequests value => headers.setUpgradeInsecureRequests value
  | .setDNT value => headers.setDNT value
  | .setUserAgent value => headers.setUserAgent value
  | .setAccept value => headers.setAccept value
  | .setAcceptEncoding value => headers.setAcceptEncoding value
  | .setAcceptLanguage value => headers.setAcceptLanguage value
  | .setCookie value => headers.setCookie value
  | .setXRequestedWith value => headers.setXRequestedWith value
  | .clear => headers.clear

def run (calls : List HttpRequestHeadersCall) : HttpRequestHeaders := calls.foldl apply {}

end HttpRequestHeaders

/-- What a call means for the headers as one map. -/
def HttpRequestHeadersCall.write : HttpRequestHeadersCall → HeaderWrite
  | setHeader key value => .assign key value
  | removeHeader key => .assign key []
  | setHost value => .assign constants.Host value
  | setContentType value => .assign constants.ContentType value
  | setContentLength value => .assign constants.ContentLength value
  | setConnection value => .assign constants.Connection value
  | setPragma value => .assign constants.Pragma value
  | setUpgradeInsecureRequests value => .assign constants.UpgradeInsecureRequests value
  | setDNT value => .assign constants.DNT value
  | setUserAgent value => .assign constants.UserAgent value
  | setAccept value => .assign constants.Accept value
  | setAcceptEncoding value => .assign constants.AcceptEncoding value
  | setAcceptLanguage value => .assign constants.AcceptLanguage value
  | setCookie value => .assign constants.Cookie value
  | setXRequestedWith value => .assign constants.XRequestedWith value
  | clear => .clear

namespace HttpRequestHeaders

theorem members_clear (headers : HttpRequestHeaders) : ∀ fixed ∈ FixedMembers, fixed.get headers.clear = [] := by
  simp [FixedMembers, clear]

/-- A call changes what is got of the headers as it changes the map. -/
theorem getHeader_apply (headers : HttpRequestHeaders) (call : HttpRequestHeadersCall) (key : SharedString) :
    (headers.apply call).getHeader key = (call.write.valueAt key).getD (headers.getHeader key) := by
  simp only [← collection_getHeader]
  have hmember : ∀ (index : Nat) (hindex : index < FixedMembers.length) (value : SharedString),
      collection.getHeader (FixedMembers[index].set headers value) key =
        ((HeaderWrite.assign FixedMembers[index].key value).valueAt key).getD (collection.getHeader headers key) := by
    intro index hindex value
    rw [HeaderWrite.getD_valueAt_assign]
    exact collection.getHeader_set (List.getElem_mem hindex) headers value key
  cases call with
  | setHeader name value =>
    rw [HttpRequestHeadersCall.write, HeaderWrite.getD_valueAt_assign, apply, ← collection_setHeader]
    exact collection.getHeader_setHeader headers name value key
  | removeHeader name =>
    rw [HttpRequestHeadersCall.write, HeaderWrite.getD_valueAt_assign, apply, ← collection_removeHeader]
    exact collection.getHeader_removeHeader headers name key
  | setHost value => exact hmember 0 (by decide) value
  | setContentType value => exact hmember 1 (by decide) value
  | setContentLength value => exact hmember 2 (by decide) value
  | setConnection value => exact hmember 3 (by decide) value
  | setPragma value => exact hmember 4 (by decide) value
  | setUpgradeInsecureRequests value => exact hmember 5 (by decide) value
  | setDNT value => exact hmember 6 (by decide) value
  | setUserAgent value => exact hmember 7 (by decide) value
  | setAccept value => exact hmember 8 (by decide) value
  | setAcceptEncoding value => exact hmember 9 (by decide) value
  | setAcceptLanguage value => exact hmember 10 (by decide) value
  | setCookie value => exact hmember 11 (by decide) value
  | setXRequestedWith value => exact hmember 12 (by decide) value
  | clear => exact collection.getHeader_of_empty headers.members_clear rfl key

theorem getHeader_run (calls : List HttpRequestHeadersCall) (key : SharedString) :
    (run calls).getHeader key = writtenValue (calls.map HttpRequestHeadersCall.write) key :=
  foldl_eq_writtenValue getHeader_apply (fun name => by
    rw [← collection_getHeader]
    exact collection.getHeader_of_empty (members_clear {}) rfl name) calls key

theorem keysApart_run (calls : List HttpRequestHeadersCall) : collection.KeysApart (run calls) := by
  induction calls using List.reverseRecOn with
  | nil => exact fun fixed _ => AList.notMem_empty fixed.key
  | append_singleton calls call ih =>
    rw [run, List.foldl_append, List.foldl_cons, List.foldl_nil, ← run]
    cases call with
    | setHeader key value =>
      rw [apply, ← collection_setHeader]
      exact ih.setHeader key value
    | removeHeader key =>
      rw [apply, ← collection_removeHeader]
      exact ih.removeHeader key
    | clear => exact fun fixed _ => AList.notMem_empty fixed.key
    | _ => exact ih

/-- The pairs that a function is applied to: those of the members and the map. -/
theorem foreach_eq (headers : HttpRequestHeaders) : headers.foreach = collection.pairs headers := by
  simp only [foreach, HeaderCollection.pairs, collection, FixedMembers, List.flatMap_cons, List.flatMap_nil,
    List.append_assoc, List.nil_append]

open constants in
/-- What is written is a line for each of the pairs. -/
theorem flatten_appendToHttp1Packet (headers : HttpRequestHeaders) (fragments : List SharedString) :
    (headers.appendToHttp1Packet fragments).flatten = fragments.flatten ++ headers.foreach.flatMap pairLine := by
  have hremain : ((StringMap.ordered headers.remainHeaders).flatMap fun pair => headerLine pair.1 pair.2).flatten =
      ((StringMap.ordered headers.remainHeaders).map fun pair => (pair.1, pair.2)).flatMap pairLine := by
    rw [← flatten_headerLines, List.flatMap_map]
  simp only [appendToHttp1Packet, foreach, List.flatten_append, List.flatMap_append, hremain, List.append_assoc,
    @flatten_memberLine with_crlf_colonspace.Host Host (by decide +kernel),
    @flatten_memberLine with_crlf_colonspace.ContentType ContentType (by decide +kernel),
    @flatten_memberLine with_crlf_colonspace.ContentLength ContentLength (by decide +kernel),
    @flatten_memberLine with_crlf_colonspace.Connection Connection (by decide +kernel),
    @flatten_memberLine with_crlf_colonspace.Pragma Pragma (by decide +kernel),
    @flatten_memberLine with_crlf_colonspace.UpgradeInsecureRequests UpgradeInsecureRequests (by decide +kernel),
    @flatten_memberLine with_crlf_colonspace.DNT DNT (by decide +kernel),
    @flatten_memberLine with_crlf_colonspace.UserAgent UserAgent (by decide +kernel),
    @flatten_memberLine with_crlf_colonspace.Accept Accept (by decide +kernel),
    @flatten_memberLine with_crlf_colonspace.AcceptEncoding AcceptEncoding (by decide +kernel),
    @flatten_memberLine with_crlf_colonspace.AcceptLanguage AcceptLanguage (by decide +kernel),
    @flatten_memberLine with_crlf_colonspace.Cookie Cookie (by decide +kernel),
    @flatten_memberLine with_crlf_colonspace.XRequestedWith XRequestedWith (by decide +kernel)]

end HttpRequestHeaders

/-- A call on the headers of a http response -/
inductive HttpResponseHeadersCall
  | setHeader (key value : SharedString)
  | removeHeader (key : SharedString)
  | setDate (value : SharedString)
  | setContentType (value : SharedString)
  | setContentLength (value : SharedString)
  | setContentEncoding (value : SharedString)
  | setTransferEncoding (value : SharedString)
  | setConnection (value : SharedString)
  | setServer (value : SharedString)
  | setVary (value : SharedString)
  | setETag (value : SharedString)
  | setCacheControl (value : SharedString)
  | setExpires (value : SharedString)
  | setLastModified (value : SharedString)
  | addAdditionHeader (key value : SharedString)
  | clear

namespace HttpResponseHeaders

theorem fixedMembers_get_set : ∀ member ∈ FixedMembers, ∀ fixed ∈ FixedMembers, ∀ (headers : HttpResponseHeaders)
    (value : SharedString),
    member.get (fixed.set headers value) = if fixed.key = member.key then value else member.get headers := by
  simp only [FixedMembers, List.forall_mem_cons]
  simp +decide only [if_true, if_false, implies_true, and_true, List.not_mem_nil, false_imp_iff]

def collection : HeaderCollection HttpResponseHeaders where
  fixedMembers := FixedMembers
  remainHeaders := remainHeaders
  withRemainHeaders headers remainHeaders := { headers with remainHeaders }
  keys_nodup := by decide +kernel
  get_set := fixedMembers_get_set
  get_withRemainHeaders := by simp [FixedMembers]
  remainHeaders_set := by simp [FixedMembers]
  remainHeaders_withRemainHeaders _ _ := rfl

theorem collection_fixedMember (key : SharedString) :
    collection.fixedMember key = FixedMembers.find? (·.key == key) := rfl

theorem collection_getHeader (headers : HttpResponseHeaders) (key : SharedString) :
    collection.getHeader headers key = headers.getHeader key := by
  unfold HeaderCollection.getHeader getHeader
  rw [collection_fixedMember]
  cases FixedMembers.find? (·.key == key) <;> rfl

theorem collection_setHeader (headers : HttpResponseHeaders) (key value : SharedString) :
    collection.setHeader headers key value = headers.setHeader key value := by
  unfold HeaderCollection.setHeader setHeader
  rw [collection_fixedMember]
  cases FixedMembers.find? (·.key == key) <;> rfl

theorem collection_removeHeader (headers : HttpResponseHeaders) (key : SharedString) :
    collection.removeHeader headers key = headers.removeHeader key := by
  unfold HeaderCollection.removeHeader removeHeader
  rw [collection_fixedMember]
  cases FixedMembers.find? (·.key == key) <;> rfl

/-- The headers after a call -/
def apply (headers : HttpResponseHeaders) : HttpResponseHeadersCall → HttpResponseHeaders
  | .setHeader key value => headers.setHeader key value
  | .removeHeader key => headers.removeHeader key
  | .setDate value => headers.setDate value
  | .setContentType value => headers.setContentType value
  | .setContentLength value => headers.setContentLength value
  | .setContentEncoding value => headers.setContentEncoding value
  | .setTransferEncoding value => headers.setTransferEncoding value
  | .setConnection value => headers.setConnection value
  | .setServer value => headers.setServer value
  | .setVary value => headers.setVary value
  | .setETag value => headers.setETag value
  | .setCacheControl value => headers.setCacheControl value
  | .setExpires value => headers.setExpires value
  | .setLastModified value => headers.setLastModified value
  | .addAdditionHeader key value => headers.addAdditionHeader key value
  | .clear => headers.clear

def run (calls : List HttpResponseHeadersCall) : HttpResponseHeaders := calls.foldl apply {}

end HttpResponseHeaders

/-- What a call means for the headers as one map. -/
def HttpResponseHeadersCall.write : HttpResponseHeadersCall → HeaderWrite
  | setHeader key value => .assign key value
  | removeHeader key => .assign key []
  | setDate value => .assign constants.Date value
  | setContentType value => .assign constants.ContentType value
  | setContentLength value => .assign constants.ContentLength value
  | setContentEncoding value => .assign constants.ContentEncoding value
  | setTransferEncoding value => .assign constants.TransferEncoding value
  | setConnection value => .assign constants.Connection value
  | setServer value => .assign constants.Server value
  | setVary value => .assign constants.Vary value
  | setETag value => .assign constants.ETag value
  | setCacheControl value => .assign constants.CacheControl value
  | setExpires value => .assign constants.Expires value
  | setLastModified value => .assign constants.LastModified value
  | addAdditionHeader _ _ => .none
  | clear => .clear

namespace HttpResponseHeaders

theorem members_addAdditionHeader (headers : HttpResponseHeaders) (key value : SharedString) :
    ∀ fixed ∈ FixedMembers, fixed.get (headers.addAdditionHeader key value) = fixed.get headers := by
  simp [FixedMembers, addAdditionHeader]

theorem members_clear (headers : HttpResponseHeaders) : ∀ fixed ∈ FixedMembers, fixed.get headers.clear = [] := by
  simp [FixedMembers, clear]

/-- A call changes what is got of the headers as it changes the map. -/
theorem getHeader_apply (headers : HttpResponseHeaders) (call : HttpResponseHeadersCall) (key : SharedString) :
    (headers.apply call).getHeader key = (call.write.valueAt key).getD (headers.getHeader key) := by
  simp only [← collection_getHeader]
  have hmember : ∀ (index : Nat) (hindex : index < FixedMembers.length) (value : SharedString),
      collection.getHeader (FixedMembers[index].set headers value) key =
        ((HeaderWrite.assign FixedMembers[index].key value).valueAt key).getD (collection.getHeader headers key) := by
    intro index hindex value
    rw [HeaderWrite.getD_valueAt_assign]
    exact collection.getHeader_set (List.getElem_mem hindex) headers value key
  cases call with
  | setHeader name value =>
    rw [HttpResponseHeadersCall.write, HeaderWrite.getD_valueAt_assign, apply, ← collection_setHeader]
    exact collection.getHeader_setHeader headers name value key
  | removeHeader name =>
    rw [HttpResponseHeadersCall.write, HeaderWrite.getD_valueAt_assign, apply, ← collection_removeHeader]
    exact collection.getHeader_removeHeader headers name key
  | setDate value => exact hmember 0 (by decide) value
  | setContentType value => exact hmember 1 (by decide) value
  | setContentLength value => exact hmember 2 (by decide) value
  | setContentEncoding value => exact hmember 3 (by decide) value
  | setTransferEncoding value => exact hmember 4 (by decide) value
  | setConnection value => exact hmember 5 (by decide) value
  | setServer value => exact hmember 6 (by decide) value
  | setVary value => exact hmember 7 (by decide) value
  | setETag value => exact hmember 8 (by decide) value
  | setCacheControl value => exact hmember 9 (by decide) value
  | setExpires value => exact hmember 10 (by decide) value
  | setLastModified value => exact hmember 11 (by decide) value
  | addAdditionHeader name value =>
    exact collection.getHeader_congr (headers.members_addAdditionHeader name value) rfl key
  | clear => exact collection.getHeader_of_empty headers.members_clear rfl key

theorem getHeader_run (calls : List HttpResponseHeadersCall) (key : SharedString) :
    (run calls).getHeader key = writtenValue (calls.map HttpResponseHeadersCall.write) key :=
  foldl_eq_writtenValue getHeader_apply (fun name => by
    rw [← collection_getHeader]
    exact collection.getHeader_of_empty (members_clear {}) rfl name) calls key

theorem keysApart_run (calls : List HttpResponseHeadersCall) : collection.KeysApart (run calls) := by
  induction calls using List.reverseRecOn with
  | nil => exact fun fixed _ => AList.notMem_empty fixed.key
  | append_singleton calls call ih =>
    rw [run, List.foldl_append, List.foldl_cons, List.foldl_nil, ← run]
    cases call with
    | setHeader key value =>
      rw [apply, ← collection_setHeader]
      exact ih.setHeader key value
    | removeHeader key =>
      rw [apply, ← collection_removeHeader]
      exact ih.removeHeader key
    | clear => exact fun fixed _ => AList.notMem_empty fixed.key
    | _ => exact ih

/-- The pairs that a function is applied to: those of the members and the map, and the additional ones. -/
theorem foreach_eq (headers : HttpResponseHeaders) : headers.foreach = collection.pairs headers ++ headers.additionHeaders := by
  simp only [foreach, HeaderCollection.pairs, collection, FixedMembers, List.flatMap_cons, List.flatMap_nil,
    List.append_assoc, List.nil_append]

open constants in
/-- What is written is a line for each of the pairs. -/
theorem flatten_appendToHttp1Packet (headers : HttpResponseHeaders) (fragments : List SharedString) :
    (headers.appendToHttp1Packet fragments).flatten = fragments.flatten ++ headers.foreach.flatMap pairLine := by
  have hremain : ((StringMap.ordered headers.remainHeaders).flatMap fun pair => headerLine pair.1 pair.2).flatten =
      ((StringMap.ordered headers.remainHeaders).map fun pair => (pair.1, pair.2)).flatMap pairLine := by
    rw [← flatten_headerLines, List.flatMap_map]
  simp only [appendToHttp1Packet, foreach, List.flatten_append, List.flatMap_append, hremain, flatten_headerLines, List.append_assoc,
    @flatten_memberLine with_crlf_colonspace.Date Date (by decide +kernel),
    @flatten_memberLine with_crlf_colonspace.ContentType ContentType (by decide +kernel),
    @flatten_memberLine with_crlf_colonspace.ContentLength ContentLength (by decide +kernel),
    @flatten_memberLine with_crlf_colonspace.ContentEncoding ContentEncoding (by decide +kernel),
    @flatten_memberLine with_crlf_colonspace.TransferEncoding TransferEncoding (by decide +kernel),
    @flatten_memberLine with_crlf_colonspace.Connection Connection (by decide +kernel),
    @flatten_memberLine with_crlf_colonspace.Server Server (by decide +kernel),
    @flatten_memberLine with_crlf_colonspace.Vary Vary (by decide +kernel),
    @flatten_memberLine with_crlf_colonspace.ETag ETag (by decide +kernel),
    @flatten_memberLine with_crlf_colonspace.CacheControl CacheControl (by decide +kernel),
    @flatten_memberLine with_crlf_colonspace.Expires Expires (by decide +kernel),
    @flatten_memberLine with_crlf_colonspace.LastModified LastModified (by decide +kernel)]

end HttpResponseHeaders

/-- Get maximum fragments count for response headers -/
def getResponseHeadersFragmentsCount (side : ReplySide) : Nat :=
  7 + side.processingContext.response.headers.maxSize * 4

theorem length_memberLine_le (crlfKeyColonSpace value : SharedString) :
    (memberLine crlfKeyColonSpace value).length ≤ 2 := by
  unfold memberLine
  split <;> simp

/-- A header takes four fragments at most. -/
theorem HttpResponseHeaders.length_appendToHttp1Packet_le (headers : HttpResponseHeaders) (fragments : List SharedString) :
    (headers.appendToHttp1Packet fragments).length ≤ fragments.length + headers.maxSize * 4 := by
  have hadditions : (headers.additionHeaders.flatMap fun pair => headerLine pair.1 pair.2).length =
      headers.additionHeaders.length * 4 := by
    simp [headerLine, List.length_flatMap]
  have hremain : ((StringMap.ordered headers.remainHeaders).flatMap fun pair => headerLine pair.1 pair.2).length =
      headers.remainHeaders.entries.length * 4 := by
    rw [← (StringMap.ordered_perm headers.remainHeaders).length_eq]
    simp [headerLine, List.length_flatMap]
  have hfixed : FixedMembers.length = 12 := rfl
  simp only [appendToHttp1Packet, List.length_append, hadditions, hremain, maxSize, hfixed]
  have := length_memberLine_le constants.with_crlf_colonspace.Date headers.date
  have := length_memberLine_le constants.with_crlf_colonspace.ContentType headers.contentType
  have := length_memberLine_le constants.with_crlf_colonspace.ContentLength headers.contentLength
  have := length_memberLine_le constants.with_crlf_colonspace.ContentEncoding headers.contentEncoding
  have := length_memberLine_le constants.with_crlf_colonspace.TransferEncoding headers.transferEncoding
  have := length_memberLine_le constants.with_crlf_colonspace.Connection headers.connection
  have := length_memberLine_le constants.with_crlf_colonspace.Server headers.server
  have := length_memberLine_le constants.with_crlf_colonspace.Vary headers.vary
  have := length_memberLine_le constants.with_crlf_colonspace.ETag headers.etag
  have := length_memberLine_le constants.with_crlf_colonspace.CacheControl headers.cacheControl
  have := length_memberLine_le constants.with_crlf_colonspace.Expires headers.expires
  have := length_memberLine_le constants.with_crlf_colonspace.LastModified headers.lastModified
  omega

/-- The header collections behave as one map: what is got is what was written last, what is put into a packet is what
    is enumerated, with each key that is not an additional one at most once, and the fragments of a response are no
    more than announced. -/
theorem headers_behave_as_one_map :
    (∀ calls : List HttpResponseHeadersCall, let headers := HttpResponseHeaders.run calls
      (∀ key, headers.getHeader key = writtenValue (calls.map HttpResponseHeadersCall.write) key) ∧
        (∀ fragments, (headers.appendToHttp1Packet fragments).flatten =
          fragments.flatten ++ headers.foreach.flatMap pairLine) ∧
        ∃ own, headers.foreach = own ++ headers.additionHeaders ∧ (own.map Prod.fst).Nodup) ∧
      (∀ calls : List HttpRequestHeadersCall, let headers := HttpRequestHeaders.run calls
        (∀ key, headers.getHeader key = writtenValue (calls.map HttpRequestHeadersCall.write) key) ∧
          (∀ fragments, (headers.appendToHttp1Packet fragments).flatten =
            fragments.flatten ++ headers.foreach.flatMap pairLine) ∧
          (headers.foreach.map Prod.fst).Nodup) ∧
      ∀ side now, ∃ appended, (appendResponseHeaders side now).socketOut = side.socketOut ++ appended ∧
        (appended.flatMap OutputEvent.fragments).length ≤
          getResponseHeadersFragmentsCount (appendResponseHeaders side now) := by
  refine ⟨fun calls => ?_, fun calls => ?_, fun side now => ?_⟩
  · refine ⟨HttpResponseHeaders.getHeader_run calls, HttpResponseHeaders.flatten_appendToHttp1Packet _, _,
      HttpResponseHeaders.foreach_eq _, ?_⟩
    exact (HttpResponseHeaders.keysApart_run calls).pairs_nodup
  · refine ⟨HttpRequestHeaders.getHeader_run calls, HttpRequestHeaders.flatten_appendToHttp1Packet _, ?_⟩
    rw [HttpRequestHeaders.foreach_eq]
    exact (HttpRequestHeaders.keysApart_run calls).pairs_nodup
  · unfold appendResponseHeaders
    split
    · exact ⟨[], (List.append_nil _).symm, Nat.zero_le _⟩
    · refine ⟨_, rfl, ?_⟩
      have hlength := (prepareResponse side.processingContext now).1.headers.length_appendToHttp1Packet_le
        [(prepareResponse side.processingContext now).1.version, constants.Space,
          (prepareResponse side.processingContext now).1.statusCode, constants.Space,
          (prepareResponse side.processingContext now).1.statusMessage]
      simp only [List.flatMap_singleton, OutputEvent.fragments, HttpResponse.headerFragments, List.length_append,
        List.length_cons, List.length_nil, getResponseHeadersFragmentsCount] at hlength ⊢
      omega

end cpv
