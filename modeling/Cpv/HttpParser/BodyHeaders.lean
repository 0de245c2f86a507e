import Cpv.Connection.Stream
import Cpv.HttpParser.HeaderNames

namespace cpv.HttpParser

/-- The values of the headers with a name, which is in lower case -/
def values (name : SharedString) (headers : List (SharedString × SharedString)) : List SharedString :=
  (headers.filter fun header => lowerName header.1 = name).map (·.2)

/-- The number that decimal digits stand for -/
def decimal (digits : SharedString) : Nat := digits.foldl (fun number digit => number * 10 + (digit - byte '0').toNat) 0

/-- A value of `Content-Length` stands for a length: digits, and blanks behind them. -/
def IsLength (value : SharedString) (length : Nat) : Prop :=
  ∃ digits blanks, value = digits ++ blanks ∧ digits ≠ [] ∧ (∀ digit ∈ digits, IS_NUM digit) ∧
    (∀ blank ∈ blanks, blank = byte ' ' ∨ blank = byte '\t') ∧ decimal digits = length

/-- A value of `Transfer-Encoding` is the one of a body in chunks, with spaces behind it. -/
def Chunked (value : SharedString) : Prop :=
  ∃ coding count, value = coding ++ List.replicate count (byte ' ') ∧ coding.map LOWER = text "chunked"

/-- The body of a request is the one that its headers announce. -/
structure Framed (wire : WireRequest) : Prop where
  connect : wire.method = text "CONNECT" → wire.body = []
  /-- There are no two lengths, not even if they are the same. -/
  single : (values (text "content-length") wire.headers).length ≤ 1
  length : wire.method ≠ text "CONNECT" → ∀ value ∈ values (text "content-length") wire.headers,
    IsLength value wire.body.length
  empty : wire.method ≠ text "CONNECT" → values (text "content-length") wire.headers = [] →
    (∀ value ∈ values (text "transfer-encoding") wire.headers, ¬ Chunked value) → wire.body = []
  /-- A length and chunks are not announced at once. -/
  exclusive : values (text "content-length") wire.headers ≠ [] →
    ∀ value ∈ values (text "transfer-encoding") wire.headers, value.map LOWER ≠ text "chunked"

/-- What a parser keeps of the lengths in headers -/
def LengthTold (flags : Flags) (content_length : Nat) (headers : List (SharedString × SharedString)) : Prop :=
  if flags.F_CONTENTLENGTH then
    content_length < ULLONG_MAX ∧ ∃ value, values (text "content-length") headers = [value] ∧ IsLength value content_length
  else content_length = ULLONG_MAX ∧ values (text "content-length") headers = []

/-- What a parser keeps of the codings in headers. A value that is folded does not count. -/
structure CodingTold (flags : Flags) (headers : List (SharedString × SharedString)) : Prop where
  chunked : flags.F_CHUNKED = true → ∃ value ∈ values (text "transfer-encoding") headers, Chunked value
  exact : ∀ value ∈ values (text "transfer-encoding") headers, value.map LOWER = text "chunked" → flags.F_CHUNKED = true

/-- A parser keeps what headers announce of the body. -/
structure Tallies (parser : Parser) (headers : List (SharedString × SharedString)) : Prop where
  length : LengthTold parser.flags parser.content_length headers
  coding : CodingTold parser.flags headers

/-- The header states of values that announce nothing -/
def HeaderState.ofOther : HeaderState → Bool
  | .h_general | .h_matching_connection_token_start | .h_matching_connection_keep_alive | .h_matching_connection_close
  | .h_matching_connection_upgrade | .h_matching_connection_token | .h_connection_keep_alive | .h_connection_close
  | .h_connection_upgrade => true
  | _ => false

/-- The headers that tell what becomes of the connection -/
def IsConnection (name : SharedString) : Prop :=
  lowerName name = text "connection" ∨ lowerName name = text "proxy-connection"

/-- The header state behind a name tells whether it is one of those that make a difference. -/
structure Named (header_state : HeaderState) (name : SharedString) : Prop where
  length : header_state = .h_content_length ↔ lowerName name = text "content-length"
  coding : header_state = .h_transfer_encoding ↔ lowerName name = text "transfer-encoding"
  upgrade : header_state = .h_upgrade ↔ lowerName name = text "upgrade"
  connection : header_state = .h_connection ↔ IsConnection name
  field : header_state.ofField = true

/-- How far a value of `Transfer-Encoding` is the one of a body in chunks -/
def CodingRead (header_state : HeaderState) (index : Nat) (value : SharedString) : Prop :=
  match header_state with
  | .h_matching_transfer_encoding_chunked => index < 6 ∧ value.map LOWER = (text "chunked").take (index + 1)
  | .h_transfer_encoding_chunked => Chunked value
  | .h_general => ¬ value.map LOWER <+: text "chunked"
  | _ => False

/-- How far a value of `Content-Length` has been read -/
def LengthRead (parser : Parser) (value : SharedString) : Prop :=
  parser.header_state = .h_content_length_ws ∧ IsLength value parser.content_length ∨
    parser.header_state = .h_content_length_num ∧ value ≠ [] ∧ (∀ digit ∈ value, IS_NUM digit) ∧
      decimal value = parser.content_length

/-- What a parser keeps in the middle of a value -/
inductive ValueRead (parser : Parser) (headers : List (SharedString × SharedString)) (name value : SharedString) : Prop
  | length (hname : lowerName name = text "content-length") (hbefore : values (text "content-length") headers = [])
      (hcoding : CodingTold parser.flags headers) (hflag : parser.flags.F_CONTENTLENGTH = true)
      (hlt : parser.content_length < ULLONG_MAX) (hread : LengthRead parser value)
  | coding (hname : lowerName name = text "transfer-encoding") (htallies : Tallies parser headers)
      (hread : CodingRead parser.header_state parser.index value)
  | other (hlength : lowerName name ≠ text "content-length") (hcoding : lowerName name ≠ text "transfer-encoding")
      (htallies : Tallies parser headers) (hstate : parser.header_state.ofOther = true)
      (hgeneral : ¬ IsConnection name → parser.header_state = .h_general)

section tallies

variable {parser after : Parser} {headers : List (SharedString × SharedString)} {name value : SharedString}

theorem values_concat (wanted : SharedString) (headers : List (SharedString × SharedString)) (name value : SharedString) :
    values wanted (headers ++ [(name, value)]) =
      values wanted headers ++ if lowerName name = wanted then [value] else [] := by
  unfold values
  rw [List.filter_append, List.map_append]
  by_cases hname : lowerName name = wanted <;> simp [hname]

theorem values_concat_of_eq {wanted : SharedString} (hname : lowerName name = wanted) :
    values wanted (headers ++ [(name, value)]) = values wanted headers ++ [value] := by
  rw [values_concat, if_pos hname]

theorem values_concat_of_ne {wanted : SharedString} (hname : lowerName name ≠ wanted) :
    values wanted (headers ++ [(name, value)]) = values wanted headers := by
  rw [values_concat, if_neg hname, List.append_nil]

theorem Tallies.congr (htallies : Tallies parser headers)
    (hlength : after.flags.F_CONTENTLENGTH = parser.flags.F_CONTENTLENGTH)
    (hchunked : after.flags.F_CHUNKED = parser.flags.F_CHUNKED) (hcontent : after.content_length = parser.content_length) :
    Tallies after headers := by
  obtain ⟨hlengths, hcoded, hexact⟩ := htallies
  refine ⟨?_, ?_, ?_⟩
  · unfold LengthTold at hlengths ⊢
    rwa [hlength, hcontent]
  · rwa [hchunked]
  · rwa [hchunked]

theorem Tallies.nothing (hflags : parser.flags = {}) (hcontent : parser.content_length = ULLONG_MAX) : Tallies parser [] := by
  refine ⟨?_, ?_, nofun⟩
  · rw [LengthTold, hflags]
    exact ⟨hcontent, rfl⟩
  · rw [hflags]
    nofun

/-- A header that announces nothing changes nothing. -/
theorem Tallies.other (htallies : Tallies parser headers) (hlength : lowerName name ≠ text "content-length")
    (hcoding : lowerName name ≠ text "transfer-encoding") : Tallies parser (headers ++ [(name, value)]) := by
  obtain ⟨hlengths, hcoded, hexact⟩ := htallies
  refine ⟨?_, ?_, ?_⟩
  · unfold LengthTold at hlengths ⊢
    rwa [values_concat_of_ne hlength]
  · rwa [values_concat_of_ne hcoding]
  · rwa [values_concat_of_ne hcoding]

theorem text_ne : text "transfer-encoding" ≠ text "content-length" := by decide

/-- A coding that is not the one of chunks -/
theorem Tallies.notChunked (htallies : Tallies parser headers) (hname : lowerName name = text "transfer-encoding")
    (hvalue : value.map LOWER ≠ text "chunked") : Tallies parser (headers ++ [(name, value)]) := by
  obtain ⟨hlengths, hcoded, hexact⟩ := htallies
  refine ⟨?_, fun hchunked => ?_, fun other hother hsame => ?_⟩
  · unfold LengthTold at hlengths ⊢
    rwa [values_concat_of_ne (hname.trans_ne text_ne)]
  · obtain ⟨other, hother, hcoding⟩ := hcoded hchunked
    exact ⟨other, by simp [values_concat_of_eq hname, hother], hcoding⟩
  · rw [values_concat_of_eq hname, List.mem_append, List.mem_singleton] at hother
    obtain hother | rfl := hother
    · exact hexact other hother hsame
    · exact absurd hsame hvalue

/-- The coding of chunks -/
theorem Tallies.chunked (htallies : Tallies parser headers) (hname : lowerName name = text "transfer-encoding")
    (hvalue : Chunked value) (hlength : after.flags.F_CONTENTLENGTH = parser.flags.F_CONTENTLENGTH)
    (hchunked : after.flags.F_CHUNKED = true) (hcontent : after.content_length = parser.content_length) :
    Tallies after (headers ++ [(name, value)]) := by
  obtain ⟨hlengths, -, -⟩ := htallies
  refine ⟨?_, fun _ => ⟨value, by simp [values_concat_of_eq hname], hvalue⟩, fun _ _ _ => hchunked⟩
  unfold LengthTold at hlengths ⊢
  rwa [values_concat_of_ne (hname.trans_ne text_ne), hlength, hcontent]

theorem connectionFlag_eq (parser : Parser) :
    parser.connectionFlag.F_CONTENTLENGTH = parser.flags.F_CONTENTLENGTH ∧
      parser.connectionFlag.F_CHUNKED = parser.flags.F_CHUNKED := by
  unfold Parser.connectionFlag
  split <;> exact ⟨rfl, rfl⟩

/-- A header that is finished with no coding of chunks -/
theorem Tallies.finished (htallies : Tallies parser headers) (hstate : parser.header_state ≠ .h_transfer_encoding_chunked) :
    Tallies parser.headerFinished headers := by
  obtain ⟨hlength, hchunked⟩ := connectionFlag_eq parser
  refine htallies.congr ?_ ?_ rfl <;> simpa [Parser.headerFinished, hstate]

theorem CodingRead.finished (hname : lowerName name = text "transfer-encoding") (htallies : Tallies parser headers)
    (hread : CodingRead parser.header_state parser.index value) :
    Tallies parser.headerFinished (headers ++ [(name, value)]) := by
  cases hstate : parser.header_state <;> rw [hstate] at hread <;> try exact hread.elim
  case h_matching_transfer_encoding_chunked =>
    obtain ⟨hindex, hvalue⟩ := hread
    refine (htallies.notChunked hname fun hsame => ?_).finished (by rw [hstate]; nofun)
    have hlength := congrArg List.length (hvalue.symm.trans hsame)
    rw [List.length_take, show (text "chunked").length = 7 from rfl] at hlength
    omega
  case h_transfer_encoding_chunked =>
    exact htallies.chunked hname hread (by simp [Parser.headerFinished, hstate])
      (by simp [Parser.headerFinished, hstate]) rfl
  case h_general =>
    have hread : ¬ value.map LOWER <+: text "chunked" := hread
    exact (htallies.notChunked hname fun hsame => hread (by rw [hsame])).finished (by rw [hstate]; nofun)

theorem LengthRead.isLength (hread : LengthRead parser value) : IsLength value parser.content_length := by
  obtain ⟨-, hvalue⟩ | ⟨-, hne, hdigits, hdecimal⟩ := hread
  · exact hvalue
  · exact ⟨value, [], (List.append_nil _).symm, hne, hdigits, by simp, hdecimal⟩

/-- Behind a header line a parser keeps what the header announces. -/
theorem ValueRead.finished (hread : ValueRead parser headers name value) :
    Tallies parser.headerFinished (headers ++ [(name, value)]) := by
  cases hread with
  | length hname hbefore hcoding hflag hlt hread =>
    have htallies : Tallies parser (headers ++ [(name, value)]) := by
      refine ⟨?_, ?_, ?_⟩
      · rw [LengthTold, if_pos hflag, values_concat_of_eq hname, hbefore]
        exact ⟨hlt, value, rfl, hread.isLength⟩
      · rw [values_concat_of_ne (hname.trans_ne text_ne.symm)]
        exact hcoding.chunked
      · rw [values_concat_of_ne (hname.trans_ne text_ne.symm)]
        exact hcoding.exact
    refine htallies.finished ?_
    obtain ⟨hstate, -⟩ | ⟨hstate, -⟩ := hread <;> rw [hstate] <;> nofun
  | coding hname htallies hread => exact CodingRead.finished hname htallies hread
  | other hlength hcoding htallies hstate _ =>
    refine (htallies.other hlength hcoding).finished fun hchunked => ?_
    rw [hchunked] at hstate
    cases hstate

theorem method_string_connect {method : http_method} : method.method_string = text "CONNECT" ↔ method = .CONNECT := by
  cases method <;> decide

/-- The headers frame a body that is as long as the parser takes it to be. -/
theorem Tallies.framed (htallies : Tallies parser headers)
    (hboth : ¬ (parser.flags.F_CHUNKED = true ∧ parser.flags.F_CONTENTLENGTH = true)) {wire : WireRequest}
    (hmethod : wire.method = parser.method.method_string) (hheaders : wire.headers = headers)
    (hconnect : parser.method = .CONNECT → wire.body = [])
    (hlength : parser.method ≠ .CONNECT → parser.flags.F_CONTENTLENGTH = true → wire.body.length = parser.content_length)
    (hempty : parser.method ≠ .CONNECT → parser.flags.F_CONTENTLENGTH = false → parser.flags.F_CHUNKED = false →
      wire.body = []) : Framed wire := by
  obtain ⟨hlengths, hcoded, hexact⟩ := htallies
  unfold LengthTold at hlengths
  have hconnected : wire.method = text "CONNECT" ↔ parser.method = .CONNECT := by
    rw [hmethod, method_string_connect]
  subst hheaders
  cases hflag : parser.flags.F_CONTENTLENGTH with
  | false =>
    simp only [hflag, Bool.false_eq_true, if_false] at hlengths
    refine ⟨fun h => hconnect (hconnected.mp h), by simp [hlengths.2], fun _ => by simp [hlengths.2],
      fun hother _ hnone => ?_, fun hne => absurd hlengths.2 hne⟩
    refine hempty (fun h => hother (hconnected.mpr h)) hflag (Bool.eq_false_iff.mpr fun hchunked => ?_)
    obtain ⟨coding, hcoding, hvalue⟩ := hcoded hchunked
    exact hnone coding hcoding hvalue
  | true =>
    simp only [hflag, if_true] at hlengths
    obtain ⟨-, value, hvalues, hvalue⟩ := hlengths
    refine ⟨fun h => hconnect (hconnected.mp h), by simp [hvalues], fun hother other hmem => ?_, fun _ hnone => ?_,
      fun _ coding hcoding hsame => hboth ⟨hexact coding hcoding hsame, hflag⟩⟩
    · rw [hvalues, List.mem_singleton] at hmem
      rw [hmem, hlength (fun h => hother (hconnected.mpr h)) hflag]
      exact hvalue
    · rw [hvalues] at hnone
      cases hnone

end tallies

section characters

variable {parser after : Parser} {ch : UInt8} {headers : List (SharedString × SharedString)}
  {name value : SharedString}

theorem digit_lt : ∀ ch : UInt8, IS_NUM ch → (ch - byte '0').toNat < 10 := forall_byte (by decide +kernel)

theorem LOWER_c_iff : ∀ ch : UInt8, [LOWER ch] <+: text "chunked" ↔ LOWER ch = byte 'c' := by
  intro ch
  rw [show text "chunked" = byte 'c' :: text "hunked" from rfl, List.cons_prefix_cons]
  simp

theorem IsLength.concat {length : Nat} {blank : UInt8} (hvalue : IsLength value length)
    (hblank : blank = byte ' ' ∨ blank = byte '\t') : IsLength (value ++ [blank]) length := by
  obtain ⟨digits, blanks, rfl, hne, hdigits, hblanks, hdecimal⟩ := hvalue
  refine ⟨digits, blanks ++ [blank], by simp, hne, hdigits, ?_, hdecimal⟩
  intro other hother
  rw [List.mem_append, List.mem_singleton] at hother
  obtain hother | rfl := hother
  · exact hblanks other hother
  · exact hblank

/-- A value with a blank in it is not the one of a body in chunks. -/
theorem not_prefix_blank (value : SharedString) (hblank : ch = byte ' ' ∨ ch = byte '\t') :
    ¬ (value ++ [ch]).map LOWER <+: text "chunked" := by
  intro hprefix
  have hmem : LOWER ch ∈ text "chunked" := hprefix.subset (by simp)
  obtain rfl | rfl := hblank <;> revert hmem <;> decide

theorem not_prefix_concat {c : UInt8} (hnot : ¬ value.map LOWER <+: text "chunked") :
    ¬ (value ++ [c]).map LOWER <+: text "chunked" := by
  intro hprefix
  rw [List.map_append] at hprefix
  exact hnot ((List.prefix_append _ _).trans hprefix)

theorem decimal_concat (digits : SharedString) (digit : UInt8) :
    decimal (digits ++ [digit]) = decimal digits * 10 + (digit - byte '0').toNat := by
  simp [decimal]

theorem ValueRead.congr (hread : ValueRead parser headers name value) (hflags : after.flags = parser.flags)
    (hcontent : after.content_length = parser.content_length) (hstate : after.header_state = parser.header_state)
    (hindex : after.index = parser.index) : ValueRead after headers name value := by
  cases hread with
  | length hname hbefore hcoding hflag hlt hread =>
    refine .length hname hbefore (hflags ▸ hcoding) (hflags ▸ hflag) (hcontent ▸ hlt) ?_
    unfold LengthRead at hread ⊢
    rwa [hstate, hcontent]
  | coding hname htallies hread =>
    refine .coding hname (htallies.congr (by rw [hflags]) (by rw [hflags]) hcontent) ?_
    rwa [hstate, hindex]
  | other hlength hcoding htallies hofOther hgeneral =>
    exact .other hlength hcoding (htallies.congr (by rw [hflags]) (by rw [hflags]) hcontent) (hstate ▸ hofOther)
      (hstate ▸ hgeneral)

/-- The next character of a length. The limit keeps the number below the largest one. -/
theorem LengthRead.char (hread : LengthRead parser value) (hlt : parser.content_length < ULLONG_MAX)
    (hchar : parser.headerValueChar ch = some (.ok after)) :
    LengthRead after (value ++ [ch]) ∧ after.content_length < ULLONG_MAX ∧ after.flags = parser.flags := by
  unfold Parser.headerValueChar at hchar
  obtain ⟨hstate, hvalue⟩ | ⟨hstate, hne, hdigits, hdecimal⟩ := hread <;> simp only [hstate, Option.some.injEq] at hchar
  · split at hchar
    case isTrue hspace =>
      cases hchar
      exact ⟨.inl ⟨hstate, hvalue.concat (.inl hspace)⟩, hlt, rfl⟩
    case isFalse => cases hchar
  · unfold Parser.contentLengthNum at hchar
    split at hchar
    case isTrue hspace =>
      cases hchar
      have hvalue : IsLength value parser.content_length := ⟨value, [], by simp, hne, hdigits, by simp, hdecimal⟩
      exact ⟨.inl ⟨rfl, hvalue.concat (.inl hspace)⟩, hlt, rfl⟩
    case isFalse =>
    split at hchar
    case isFalse => cases hchar
    case isTrue hdigit =>
    dsimp only at hchar
    split at hchar
    case isTrue => cases hchar
    case isFalse hlimit =>
      cases hchar
      have hten := digit_lt ch hdigit
      unfold ULLONG_MAX at hlimit ⊢
      rw [Nat.mod_eq_of_lt (by omega)]
      refine ⟨.inr ⟨hstate, by simp, ?_, ?_⟩, by dsimp only; omega, rfl⟩
      · intro digit hmem
        rw [List.mem_append, List.mem_singleton] at hmem
        obtain hmem | rfl := hmem
        · exact hdigits digit hmem
        · exact hdigit
      · rw [decimal_concat, hdecimal]

/-- The next character of a coding -/
theorem CodingRead.char (hread : CodingRead parser.header_state parser.index value)
    (hchar : parser.headerValueChar ch = some (.ok after)) :
    CodingRead after.header_state after.index (value ++ [ch]) ∧ after.flags = parser.flags ∧
      after.content_length = parser.content_length := by
  unfold Parser.headerValueChar at hchar
  cases hstate : parser.header_state <;> rw [hstate] at hread hchar <;> try exact hread.elim
  case h_general =>
    cases hchar
    rw [hstate]
    exact ⟨not_prefix_concat hread, rfl, rfl⟩
  case h_matching_transfer_encoding_chunked =>
    obtain ⟨hindex, hvalue⟩ := hread
    have hlength : (text "chunked").length = 7 := rfl
    have hlt : parser.index + 1 < (text "chunked").length := by omega
    have hlonger : (value ++ [ch]).map LOWER = (text "chunked").take (parser.index + 1) ++ [LOWER ch] := by
      rw [List.map_append, hvalue]
      rfl
    have hget : (text "chunked").getD (parser.index + 1) 0 = (text "chunked")[parser.index + 1] := by
      rw [List.getD_eq_getElem?_getD, List.getElem?_eq_getElem hlt]
      rfl
    unfold Parser.matching at hchar
    dsimp only at hchar
    rw [hlength, hget] at hchar
    split at hchar
    case isTrue hdiffers =>
      cases hchar
      refine ⟨fun hprefix => ?_, rfl, rfl⟩
      rw [hlonger, List.prefix_iff_eq_take] at hprefix
      rw [List.length_append, List.length_take, List.length_singleton, min_eq_left hlt.le,
        List.take_succ_eq_append_getElem hlt] at hprefix
      have hsame := List.append_cancel_left hprefix
      simp only [List.cons.injEq, and_true] at hsame
      exact hdiffers.elim (fun h => by omega) fun h => h hsame
    case isFalse hsame =>
      have hchars : LOWER ch = (text "chunked")[parser.index + 1] := by
        by_contra h
        exact hsame (.inr h)
      rw [hchars, ← List.take_succ_eq_append_getElem hlt] at hlonger
      split at hchar
      case isTrue hlast =>
        cases hchar
        refine ⟨⟨value ++ [ch], 0, by simp, ?_⟩, rfl, rfl⟩
        rw [hlonger, hlast]
        rfl
      case isFalse hmore =>
        cases hchar
        rw [hstate]
        exact ⟨⟨by dsimp only; omega, hlonger⟩, rfl, rfl⟩
  case h_transfer_encoding_chunked =>
    obtain ⟨coding, count, rfl, hcoding⟩ := hread
    dsimp only at hchar
    split at hchar
    case isTrue =>
      cases hchar
      refine ⟨fun hprefix => ?_, rfl, rfl⟩
      have hle := hprefix.length_le
      simp only [List.map_append, hcoding, List.length_append, List.length_map, List.length_singleton] at hle
      omega
    case isFalse hspace =>
      cases hchar
      rw [hstate, not_not.mp hspace]
      refine ⟨⟨coding, count + 1, ?_, hcoding⟩, rfl, rfl⟩
      rw [List.replicate_succ', List.append_assoc]

/-- The next character of a value that announces nothing -/
theorem headerValueChar_other (hstate : parser.header_state.ofOther = true)
    (hchar : parser.headerValueChar ch = some (.ok after)) :
    after.header_state.ofOther = true ∧ after.flags.F_CONTENTLENGTH = parser.flags.F_CONTENTLENGTH ∧
      after.flags.F_CHUNKED = parser.flags.F_CHUNKED ∧ after.content_length = parser.content_length := by
  have hmatching : ∀ (str : SharedString) (matched : HeaderState), matched.ofOther = true →
      after = parser.matching (LOWER ch) str matched .h_matching_connection_token →
      after.header_state.ofOther = true ∧ after.flags.F_CONTENTLENGTH = parser.flags.F_CONTENTLENGTH ∧
        after.flags.F_CHUNKED = parser.flags.F_CHUNKED ∧ after.content_length = parser.content_length := by
    rintro str matched hmatched rfl
    obtain ⟨header_state, index, heq, hmem⟩ :=
      Parser.matching_spec parser (LOWER ch) str matched .h_matching_connection_token
    rw [heq]
    refine ⟨?_, rfl, rfl, rfl⟩
    simp only [List.mem_cons, List.not_mem_nil, or_false] at hmem
    rcases hmem with rfl | rfl | rfl
    · exact hstate
    · exact hmatched
    · rfl
  obtain ⟨hlength, hchunked⟩ := connectionFlag_eq parser
  unfold Parser.headerValueChar at hchar
  cases hcase : parser.header_state <;> simp only [hcase, Option.some.injEq, Except.ok.injEq] at hchar <;>
    rw [hcase] at hstate <;> try cases hstate
  case h_general =>
    subst hchar
    exact ⟨hcase ▸ rfl, rfl, rfl, rfl⟩
  case h_matching_connection_token_start =>
    subst hchar
    refine ⟨?_, rfl, rfl, rfl⟩
    unfold Parser.firstConnectionToken
    dsimp only
    split
    case h_1 hfirst => split_ifs at hfirst <;> cases hfirst <;> rfl
    case h_2 => split_ifs <;> rfl
  case h_matching_connection_keep_alive => exact hmatching _ _ rfl hchar.symm
  case h_matching_connection_close => exact hmatching _ _ rfl hchar.symm
  case h_matching_connection_upgrade => exact hmatching _ _ rfl hchar.symm
  case h_matching_connection_token =>
    split at hchar <;> subst hchar
    · exact ⟨rfl, rfl, rfl, rfl⟩
    · exact ⟨hcase ▸ rfl, rfl, rfl, rfl⟩
  all_goals
    split at hchar
    · subst hchar
      exact ⟨rfl, hlength, hchunked, rfl⟩
    split at hchar <;> subst hchar
    · exact ⟨rfl, rfl, rfl, rfl⟩
    · exact ⟨hcase ▸ rfl, rfl, rfl, rfl⟩

/-- The next character of a value -/
theorem ValueRead.char (hread : ValueRead parser headers name value)
    (hchar : parser.headerValueChar ch = some (.ok after)) : ValueRead after headers name (value ++ [ch]) := by
  cases hread with
  | length hname hbefore hcoding hflag hlt hread =>
    obtain ⟨hafter, hafterLt, hflags⟩ := hread.char hlt hchar
    exact .length hname hbefore (hflags ▸ hcoding) (hflags ▸ hflag) hafterLt hafter
  | coding hname htallies hread =>
    obtain ⟨hafter, hflags, hcontent⟩ := CodingRead.char hread hchar
    exact .coding hname (htallies.congr (by rw [hflags]) (by rw [hflags]) hcontent) hafter
  | other hlength hcoding htallies hstate hgeneral =>
    obtain ⟨hafter, hlengthFlag, hchunked, hcontent⟩ := headerValueChar_other hstate hchar
    refine .other hlength hcoding (htallies.congr hlengthFlag hchunked hcontent) hafter fun hname => ?_
    have hbefore := hgeneral hname
    unfold Parser.headerValueChar at hchar
    rw [hbefore] at hchar
    cases hchar
    exact hbefore

end characters

end cpv.HttpParser
