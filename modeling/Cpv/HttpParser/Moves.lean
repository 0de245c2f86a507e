import Cpv.HttpParser.Model

namespace cpv.HttpParser

/-- How far a parser is with the callbacks of a message. Headers may also be those behind the last chunk. -/
inductive Place
  | idle
  | begun
  | url
  | headers (trailing : Bool)
  | field (trailing : Bool)
  | fieldEnd (trailing : Bool)
  | value (trailing : Bool)
  | valueEnd (trailing : Bool)
  | chunk
  | data
  | dataEnd
deriving DecidableEq

/-- The header states in the middle of a field -/
def HeaderState.ofField : HeaderState → Bool
  | .h_general | .h_C | .h_CO | .h_CON | .h_matching_connection | .h_matching_proxy_connection
  | .h_matching_content_length | .h_matching_transfer_encoding | .h_matching_upgrade | .h_connection | .h_content_length
  | .h_transfer_encoding | .h_upgrade => true
  | _ => false

namespace Parser

/-- The place between two characters. The states without one are left with the character that leads to them. -/
def place (parser : Parser) : Place :=
  match parser.state with
  | .s_dead | .s_start_req | .s_headers_done | .s_message_done => .idle
  | .s_req_method | .s_req_spaces_before_url => .begun
  | .s_req_schema | .s_req_schema_slash | .s_req_schema_slash_slash | .s_req_server_start | .s_req_server
  | .s_req_server_with_at | .s_req_path | .s_req_query_string_start | .s_req_query_string | .s_req_fragment_start
  | .s_req_fragment => .url
  | .s_req_http_start | .s_req_http_H | .s_req_http_HT | .s_req_http_HTT | .s_req_http_HTTP | .s_req_http_I
  | .s_req_http_IC | .s_req_http_major | .s_req_http_dot | .s_req_http_minor | .s_req_http_end | .s_req_line_almost_done
  | .s_header_field_start | .s_headers_almost_done => .headers parser.flags.F_TRAILING
  | .s_header_field => .field parser.flags.F_TRAILING
  | .s_header_value_discard_ws | .s_header_value_discard_ws_almost_done | .s_header_value_discard_lws
  | .s_header_value_start => .fieldEnd parser.flags.F_TRAILING
  | .s_header_value => .value parser.flags.F_TRAILING
  | .s_header_almost_done | .s_header_value_lws => .valueEnd parser.flags.F_TRAILING
  | .s_chunk_size_start | .s_chunk_size | .s_chunk_parameters | .s_chunk_size_almost_done | .s_chunk_data_done => .chunk
  | .s_chunk_data | .s_body_identity => .data
  | .s_chunk_data_almost_done => .dataEnd

/-- What holds of a parser in its state -/
def StateInvariant (parser : Parser) : Prop :=
  match parser.state with
  | .s_dead | .s_start_req | .s_header_field_start | .s_header_value_discard_ws | .s_header_value_discard_ws_almost_done
  | .s_header_value_discard_lws | .s_header_almost_done | .s_header_value_lws | .s_headers_almost_done => True
  | .s_req_method => parser.index ≤ parser.method.method_string.length ∧ parser.flags.F_TRAILING = false
  | .s_header_field => parser.header_state.ofField = true
  | .s_header_value => parser.header_state ≠ .h_connection ∧ parser.header_state ≠ .h_transfer_encoding
  | .s_chunk_size_start => parser.flags.F_CHUNKED = true ∧ parser.nread = 0
  | .s_chunk_size | .s_chunk_parameters | .s_chunk_size_almost_done =>
    parser.flags.F_CHUNKED = true ∧ parser.content_length < ULLONG_MAX
  | .s_chunk_data => parser.flags.F_CHUNKED = true ∧ 0 < parser.content_length ∧ parser.content_length < ULLONG_MAX
  | .s_chunk_data_almost_done => parser.flags.F_CHUNKED = true ∧ parser.content_length = 0
  | .s_chunk_data_done => parser.flags.F_CHUNKED = true
  | .s_body_identity => 0 < parser.content_length ∧ parser.content_length < ULLONG_MAX
  | .s_header_value_start | .s_headers_done | .s_message_done => False
  | _ => parser.flags.F_TRAILING = false

/-- A parser without an error. The length fits into 64 bits. -/
def Sane (parser : Parser) : Prop := parser.http_errno = none ∧ parser.content_length ≤ ULLONG_MAX

/-- A parser between two characters that has not met an error -/
structure Valid (parser : Parser) : Prop where
  sane : parser.Sane
  state : parser.StateInvariant

/-- The parser has left the connection to a different protocol. -/
def left (parser : Parser) : Bool := parser.upgrade && decide (parser.place = .idle)

end Parser

/-- What the first character behind a header line, or behind the line in front of the headers, can bring about -/
inductive HeaderLine : (trailing : Bool) → List Action → Place → Prop
  | line {trailing : Bool} : HeaderLine trailing [] (.headers trailing)
  | field {trailing : Bool} : HeaderLine trailing [.MARK .header_field] (.field trailing)
  | complete {method : SharedString} {http_major http_minor : Nat} {place : Place}
      (hplace : place = .chunk ∨ place = .data) :
      HeaderLine false [.CALLBACK_NOTIFY (.headersComplete method http_major http_minor)] place
  | completeAll {method : SharedString} {http_major http_minor : Nat} :
      HeaderLine false
        [.CALLBACK_NOTIFY (.headersComplete method http_major http_minor), .CALLBACK_NOTIFY .messageComplete] .idle
  | trailersComplete : HeaderLine true [.CALLBACK_NOTIFY .skip, .CALLBACK_NOTIFY .messageComplete] .idle

/-- What a character can bring about -/
inductive Moves : Place → List Action → Place → Prop
  | idle : Moves .idle [] .idle
  | begin : Moves .idle [.CALLBACK_NOTIFY .messageBegin] .begun
  | begun : Moves .begun [] .begun
  | urlBegin : Moves .begun [.MARK .url] .url
  | url : Moves .url [] .url
  | urlEnd : Moves .url [.CALLBACK_DATA .url 0] (.headers false)
  | headers {trailing : Bool} {actions : List Action} {place : Place} (hline : HeaderLine trailing actions place) :
      Moves (.headers trailing) actions place
  | field {trailing : Bool} : Moves (.field trailing) [] (.field trailing)
  | fieldEnd {trailing : Bool} : Moves (.field trailing) [.CALLBACK_DATA .header_field 0] (.fieldEnd trailing)
  | blank {trailing : Bool} : Moves (.fieldEnd trailing) [] (.fieldEnd trailing)
  | valueBegin {trailing : Bool} : Moves (.fieldEnd trailing) [.MARK .header_value] (.value trailing)
  | valueEmpty {trailing : Bool} {actions : List Action} {place : Place} (hline : HeaderLine trailing actions place) :
      Moves (.fieldEnd trailing) ([.MARK .header_value, .CALLBACK_DATA .header_value 0] ++ actions) place
  | value {trailing : Bool} : Moves (.value trailing) [] (.value trailing)
  | valueEnd {trailing : Bool} : Moves (.value trailing) [.CALLBACK_DATA .header_value 0] (.valueEnd trailing)
  | lineEnd {trailing : Bool} : Moves (.valueEnd trailing) [] (.valueEnd trailing)
  | valueFolded {trailing : Bool} : Moves (.valueEnd trailing) [.MARK .header_value] (.value trailing)
  | lineDone {trailing : Bool} {actions : List Action} {place : Place} (hline : HeaderLine trailing actions place) :
      Moves (.valueEnd trailing) actions place
  | chunk : Moves .chunk [] .chunk
  | chunkNotify {place : Place} (hplace : place = .chunk ∨ place = .data ∨ place = .headers true) :
      Moves .chunk [.CALLBACK_NOTIFY .skip] place
  | data {place : Place} (hplace : place = .data ∨ place = .dataEnd) : Moves .data [.MARK .body] place
  | dataComplete :
      Moves .data [.MARK .body, .CALLBACK_DATA .body 1, .CALLBACK_NOTIFY .messageComplete] .idle
  | dataEnd : Moves .dataEnd [.CALLBACK_DATA .body 0] .chunk

/-- What is still done for a character that is an error -/
inductive Refuses : Place → List Action → Prop
  | nothing {place : Place} : Refuses place []
  | url : Refuses .begun [.MARK .url]
  | value {trailing : Bool} : Refuses (.fieldEnd trailing) [.MARK .header_value]
  | valueFolded {trailing : Bool} : Refuses (.valueEnd trailing) [.MARK .header_value]
  | valueEmpty {trailing : Bool} :
      Refuses (.fieldEnd trailing) [.MARK .header_value, .CALLBACK_DATA .header_value 0]

/-- What a round over a single character comes to -/
inductive RoundSpec (parser : Parser) (round : Round) : Prop
  | next (after : Parser) (hending : round.ending = .next after 0) (hvalid : after.Valid)
      (hmoves : Moves parser.place round.actions after.place) (hleft : parser.left = false → after.left = false)
  | leave (after : Parser) (hending : round.ending = .leave after 0) (hvalid : after.Valid)
      (hmoves : Moves parser.place round.actions after.place) (hleft : after.left = true)
  | error (errno : http_errno) (after : Parser) (hending : round.ending = .error errno after 0)
      (hrefuses : Refuses parser.place round.actions)

/-- What a round over the first character behind a header line comes to -/
inductive LineSpec (trailing : Bool) (round : Round) : Prop
  | next (after : Parser) (hending : round.ending = .next after 0) (hvalid : after.Valid)
      (hline : HeaderLine trailing round.actions after.place) (hleft : after.left = false)
  | leave (after : Parser) (hending : round.ending = .leave after 0) (hvalid : after.Valid)
      (hline : HeaderLine trailing round.actions after.place) (hleft : after.left = true)
  | error (errno : http_errno) (after : Parser) (hending : round.ending = .error errno after 0)
      (hactions : round.actions = [])

section specs

variable {parser after : Parser} {ch : UInt8}

theorem Parser.left_eq_false (hplace : parser.place ≠ .idle) : parser.left = false := by
  simp [left, hplace]

theorem RoundSpec.go (hvalid : after.Valid) (hmoves : Moves parser.place [] after.place) (hplace : after.place ≠ .idle) :
    RoundSpec parser (.next after) :=
  .next after rfl hvalid hmoves fun _ => Parser.left_eq_false hplace

theorem RoundSpec.does {actions : List Action} (hvalid : after.Valid) (hmoves : Moves parser.place actions after.place)
    (hplace : after.place ≠ .idle) : RoundSpec parser ((Round.next after).after actions) := by
  refine .next after rfl hvalid ?_ fun _ => Parser.left_eq_false hplace
  simpa [Round.after, Round.next] using hmoves

theorem RoundSpec.refuse {errno : http_errno} : RoundSpec parser (.error errno after) :=
  .error errno after rfl .nothing

/-- The first character behind a header line does what `headers` allows, behind what is done for the line itself. -/
theorem LineSpec.round {round : Round} {trailing : Bool} (actions : List Action)
    (hspec : LineSpec trailing round)
    (hmoves : ∀ {line place}, HeaderLine trailing line place → Moves parser.place (actions ++ line) place)
    (hrefuses : Refuses parser.place actions) : RoundSpec parser (round.after actions) := by
  cases hspec with
  | next after hending hvalid hline hleft => exact .next after hending hvalid (hmoves hline) fun _ => hleft
  | leave after hending hvalid hline hleft => exact .leave after hending hvalid (hmoves hline) hleft
  | error errno after hending hactions =>
    refine .error errno after hending ?_
    simpa [Round.after, hactions] using hrefuses

/-- The states in the middle of a url -/
def urlStates : List State :=
  [.s_req_schema, .s_req_schema_slash, .s_req_schema_slash_slash, .s_req_server_start, .s_req_server, .s_req_server_with_at,
    .s_req_path, .s_req_query_string_start, .s_req_query_string, .s_req_fragment_start, .s_req_fragment]

theorem parse_url_char_mem (s : State) (ch : UInt8) : parse_url_char s ch = .s_dead ∨ parse_url_char s ch ∈ urlStates := by
  cases s <;> simp only [parse_url_char] <;> split_ifs <;> simp [urlStates]

theorem urlStates_spec (parser : Parser) (hstate : parser.state ∈ urlStates) :
    parser.place = .url ∧ (parser.StateInvariant ↔ parser.flags.F_TRAILING = false) := by
  cases parser
  simp only [urlStates, List.mem_cons, List.not_mem_nil, or_false] at hstate
  rcases hstate with h | h | h | h | h | h | h | h | h | h | h <;> cases h <;> exact ⟨rfl, Iff.rfl⟩

namespace Parser

section line

theorem dead_spec (hsane : parser.Sane) (hstate : parser.state = .s_dead) :
    RoundSpec parser (if ch = CR ∨ ch = LF then .next parser else .error .HPE_CLOSED_CONNECTION parser) := by
  cases parser
  cases hstate
  split
  · exact .next _ rfl ⟨hsane, trivial⟩ .idle id
  · exact .refuse

theorem startReq_spec (hsane : parser.Sane) (hstate : parser.state = .s_start_req) :
    RoundSpec parser (parser.startReq ch) := by
  have hlength : ∀ method : http_method, 1 ≤ method.method_string.length := by
    intro method
    cases method <;> decide
  cases parser
  cases hstate
  unfold startReq
  split
  · exact .next _ rfl ⟨hsane, trivial⟩ .idle id
  · dsimp only
    split
    · split
      · exact .does ⟨⟨hsane.1, le_rfl⟩, hlength _, rfl⟩ .begin nofun
      · exact .refuse
    · exact .refuse

/-- The method that takes the place of another one is as long as what has been read of it. -/
theorem otherMethods_length {method other : http_method} {index : Nat}
    (hother : otherMethods.lookup (method, index, ch) = some other) : index + 1 ≤ other.method_string.length := by
  have hall : ∀ entry ∈ otherMethods, entry.1.2.1 + 1 ≤ entry.2.method_string.length := by decide
  obtain ⟨before, after, hentry, _⟩ := List.lookup_eq_some_iff.mp hother
  exact hall ((method, index, ch), other) (by simp [hentry])

theorem reqMethod_spec (hsane : parser.Sane) (hstate : parser.state = .s_req_method)
    (hindex : parser.index ≤ parser.method.method_string.length) (htrailing : parser.flags.F_TRAILING = false) :
    RoundSpec parser (parser.reqMethod ch) := by
  have hplace : parser.place = .begun := by simp [place, hstate]
  unfold reqMethod
  split
  · exact .refuse
  case isFalse hzero =>
  split
  case h_1 hnone =>
    rw [List.getElem?_eq_none_iff, List.length_append, List.length_singleton] at hnone
    omega
  case h_2 matcher hmatcher =>
    split
    · exact .go ⟨hsane, htrailing⟩ (hplace ▸ .begun) nofun
    split
    case isTrue hsame =>
      have hlt : parser.index < parser.method.method_string.length := by
        by_contra hnot
        rw [List.getElem?_append_right (by omega), show parser.index - _ = 0 by omega] at hmatcher
        exact hzero (hsame.trans (Option.some.inj hmatcher).symm)
      refine .go ⟨hsane, ?_⟩ ?_ ?_ <;> simp_all [StateInvariant, place, Moves.begun]
    split
    · split
      case h_1 other hother =>
        have hlength := otherMethods_length hother
        refine .go ⟨hsane, ?_⟩ ?_ ?_ <;> simp_all [StateInvariant, place, Moves.begun]
      · exact .refuse
    · exact .refuse

theorem urlChar_spec {before : Parser} (actions : List Action) (hsane : parser.Sane)
    (htrailing : parser.flags.F_TRAILING = false) (hmoves : Moves before.place actions .url)
    (hrefuses : Refuses before.place actions) : RoundSpec before ((parser.urlChar ch).after actions) := by
  unfold urlChar
  dsimp only
  split
  · exact .error _ _ rfl (by simpa [Round.after, Round.error] using hrefuses)
  case isFalse hdead =>
    obtain ⟨hplace, hinvariant⟩ := urlStates_spec { parser with state := parse_url_char parser.state ch }
      ((parse_url_char_mem parser.state ch).resolve_left hdead)
    exact .does ⟨hsane, hinvariant.mpr htrailing⟩ (hplace ▸ hmoves) (by simp [hplace])

theorem reqSpacesBeforeUrl_spec (hsane : parser.Sane) (hstate : parser.state = .s_req_spaces_before_url)
    (htrailing : parser.flags.F_TRAILING = false) : RoundSpec parser (parser.reqSpacesBeforeUrl ch) := by
  have hplace : parser.place = .begun := by simp [place, hstate]
  unfold reqSpacesBeforeUrl
  split
  · exact .go ⟨hsane, by simpa [StateInvariant, hstate] using htrailing⟩ (hplace ▸ .begun) (by simp [hplace])
  · dsimp only
    split
    · exact urlChar_spec [.MARK .url] hsane htrailing (hplace ▸ .urlBegin) (hplace ▸ .url)
    · exact urlChar_spec [.MARK .url] hsane htrailing (hplace ▸ .urlBegin) (hplace ▸ .url)

theorem reqSchema_spec (hsane : parser.Sane) (hplace : parser.place = .url)
    (htrailing : parser.flags.F_TRAILING = false) : RoundSpec parser (parser.reqSchema ch) := by
  unfold reqSchema
  split
  · exact .refuse
  · exact urlChar_spec [] hsane htrailing (hplace ▸ .url) .nothing

theorem reqUrl_spec (hsane : parser.Sane) (hplace : parser.place = .url)
    (htrailing : parser.flags.F_TRAILING = false) : RoundSpec parser (parser.reqUrl ch) := by
  have hend : ∀ after : Parser, after.place = .headers after.flags.F_TRAILING → after.flags.F_TRAILING = false →
      Moves parser.place [.CALLBACK_DATA .url 0] after.place := by
    intro after hafter hfalse
    rw [hplace, hafter, hfalse]
    exact .urlEnd
  unfold reqUrl
  split
  · exact .does ⟨hsane, htrailing⟩ (hend _ rfl htrailing) nofun
  split
  · split
    · exact .does ⟨hsane, htrailing⟩ (hend _ rfl htrailing) nofun
    · exact .does ⟨hsane, trivial⟩ (hend _ rfl htrailing) nofun
  · exact urlChar_spec [] hsane htrailing (hplace ▸ .url) .nothing

/-- The states between the url and the headers -/
def versionStates : List State :=
  [.s_req_http_start, .s_req_http_H, .s_req_http_HT, .s_req_http_HTT, .s_req_http_HTTP, .s_req_http_I, .s_req_http_IC,
    .s_req_http_major, .s_req_http_dot, .s_req_http_minor, .s_req_http_end, .s_req_line_almost_done]

theorem versionStates_spec (hstate : parser.state ∈ versionStates) :
    parser.place = .headers parser.flags.F_TRAILING ∧ (parser.StateInvariant ↔ parser.flags.F_TRAILING = false) := by
  cases parser
  simp only [versionStates, List.mem_cons, List.not_mem_nil, or_false] at hstate
  rcases hstate with h | h | h | h | h | h | h | h | h | h | h | h <;> cases h <;> exact ⟨rfl, Iff.rfl⟩

/-- The version goes on with a character, or the headers begin. -/
theorem version_go (hstate : parser.state ∈ versionStates) (htrailing : parser.flags.F_TRAILING = false)
    (hsane : after.Sane) (hflags : after.flags = parser.flags)
    (hafter : after.state ∈ versionStates ∨ after.state = .s_header_field_start) : RoundSpec parser (.next after) := by
  have hline : Moves parser.place [] (.headers after.flags.F_TRAILING) := by
    rw [(versionStates_spec hstate).1, hflags]
    exact .headers .line
  obtain hafter | hafter := hafter
  · obtain ⟨hplace, hinvariant⟩ := versionStates_spec hafter
    exact .go ⟨hsane, hinvariant.mpr (hflags ▸ htrailing)⟩ (hplace ▸ hline) (by simp [hplace])
  · have hplace : after.place = .headers after.flags.F_TRAILING := by simp [place, hafter]
    exact .go ⟨hsane, by simp [StateInvariant, hafter]⟩ (hplace ▸ hline) (by simp [hplace])

theorem version_spec (hsane : parser.Sane) (hstate : parser.state ∈ versionStates)
    (htrailing : parser.flags.F_TRAILING = false) (rest : List UInt8) : RoundSpec parser (parser.switch ch rest) := by
  have hgo : ∀ after : Parser, after.Sane → after.flags = parser.flags →
      after.state ∈ versionStates ∨ after.state = .s_header_field_start → RoundSpec parser (.next after) :=
    fun after => version_go hstate htrailing
  have hconstant : ∀ (expected : UInt8) (state : State), state ∈ versionStates →
      RoundSpec parser (parser.constant ch expected state) := by
    intro expected state hafter
    unfold constant
    split
    · exact hgo _ hsane rfl (.inl hafter)
    · exact .refuse
  have hmem := hstate
  simp only [versionStates, List.mem_cons, List.not_mem_nil, or_false] at hmem
  rcases hmem with h | h | h | h | h | h | h | h | h | h | h | h <;> simp only [switch, h]
  · unfold reqHttpStart
    split_ifs
    · exact hgo _ hsane rfl (.inl hstate)
    · exact hgo _ hsane rfl (.inl (by simp [versionStates]))
    · exact hgo _ hsane rfl (.inl (by simp [versionStates]))
    · exact .refuse
  iterate 6 exact hconstant _ _ (by decide)
  · unfold reqHttpMajor
    split
    · exact hgo _ hsane rfl (.inl (by simp [versionStates]))
    · exact .refuse
  · unfold reqHttpDot
    split
    · exact hgo _ hsane rfl (.inl (by simp [versionStates]))
    · exact .refuse
  · unfold reqHttpMinor
    split
    · exact hgo _ hsane rfl (.inl (by simp [versionStates]))
    · exact .refuse
  · unfold reqHttpEnd
    split_ifs
    · exact hgo _ hsane rfl (.inl (by simp [versionStates]))
    · exact hgo _ hsane rfl (.inr rfl)
    · exact .refuse
  · unfold reqLineAlmostDone
    split
    · exact hgo _ hsane rfl (.inr rfl)
    · exact .refuse

end line

section headers

variable {trailing : Bool}

theorem newMessage_spec (state : State) (hstate : state = parser.NEW_MESSAGE) :
    { parser with state }.place = .idle ∧ { parser with state }.StateInvariant := by
  unfold NEW_MESSAGE at hstate
  split at hstate <;> cases hstate <;> exact ⟨rfl, trivial⟩

theorem left_eq (hplace : parser.place = .idle) : parser.left = parser.upgrade := by
  simp [left, hplace]

theorem messageDone_spec {actions : List Action} (hsane : parser.Sane)
    (hline : HeaderLine trailing (actions ++ [.CALLBACK_NOTIFY .messageComplete]) .idle) :
    LineSpec trailing (parser.messageDone.after actions) := by
  obtain ⟨hplace, hinvariant⟩ := parser.newMessage_spec _ rfl
  have hleft := left_eq hplace
  rw [← hplace] at hline
  cases hupgrade : parser.upgrade with
  | false =>
    exact .next { parser with state := parser.NEW_MESSAGE } (by simp [messageDone, Round.after, hupgrade])
      ⟨hsane, hinvariant⟩ hline (hleft.trans hupgrade)
  | true =>
    exact .leave { parser with state := parser.NEW_MESSAGE } (by simp [messageDone, Round.after, hupgrade])
      ⟨hsane, hinvariant⟩ hline (hleft.trans hupgrade)

theorem headersDone_spec {method : SharedString} {http_major http_minor : Nat} (hsane : parser.Sane) (hch : ch = LF) :
    LineSpec false
      ((parser.headersDone ch).after [.CALLBACK_NOTIFY (.headersComplete method http_major http_minor)]) := by
  have hbody : ∀ after : Parser, after.Valid → after.place = .chunk ∨ after.place = .data →
      LineSpec false ((Round.next after).after [.CALLBACK_NOTIFY (.headersComplete method http_major http_minor)]) :=
    fun after hvalid hplace => .next after rfl hvalid (.complete hplace)
      (left_eq_false (by obtain hplace | hplace := hplace <;> simp [hplace]))
  have hnread : ({ parser with nread := 0 }).Sane := hsane
  obtain ⟨hplace, hinvariant⟩ := ({ parser with nread := 0 }).newMessage_spec _ rfl
  have hleft := left_eq hplace
  rw [headersDone, if_pos hch]
  dsimp only
  split
  case isTrue hupgrade => exact .leave _ rfl ⟨hsane, hinvariant⟩ (hplace ▸ .completeAll) (hleft.trans hupgrade.1)
  case isFalse hstays =>
  split
  case isTrue hchunked => exact hbody _ ⟨hsane, hchunked, rfl⟩ (.inl rfl)
  case isFalse hchunked =>
  split
  case isTrue hlength =>
    exact hbody _ ⟨hsane, Nat.pos_of_ne_zero hlength.1, lt_of_le_of_ne hsane.2 hlength.2⟩ (.inr rfl)
  case isFalse hlength =>
    refine .next _ rfl ⟨hsane, hinvariant⟩ (hplace ▸ .completeAll) (hleft.trans ?_)
    by_contra hupgrade
    refine hstays ⟨by simpa using hupgrade, .inr ?_⟩
    simp only [Bool.not_eq_true] at hchunked
    simp [hchunked]
    grind

theorem headersAlmostDone_spec (hsane : parser.Sane) (htrailing : parser.flags.F_TRAILING = trailing) :
    LineSpec trailing (parser.headersAlmostDone ch) := by
  unfold headersAlmostDone
  split
  case isFalse => exact .error _ _ rfl rfl
  case isTrue hch =>
  split
  case isTrue htrue =>
    obtain rfl : trailing = true := htrailing.symm.trans htrue
    exact messageDone_spec hsane .trailersComplete
  case isFalse hfalse =>
    obtain rfl : trailing = false := by simpa [htrailing] using hfalse
    split
    · exact .error _ _ rfl rfl
    · exact headersDone_spec hsane hch

theorem headerFieldStart_spec (hsane : parser.Sane) (htrailing : parser.flags.F_TRAILING = trailing) :
    LineSpec trailing (parser.headerFieldStart ch) := by
  have hfield : (firstHeaderState (TOKEN ch)).ofField = true := by
    unfold firstHeaderState
    split_ifs <;> rfl
  unfold headerFieldStart
  split
  · exact .next _ rfl ⟨hsane, trivial⟩ (htrailing ▸ .line) (left_eq_false nofun)
  split
  · exact headersAlmostDone_spec hsane htrailing
  split
  · exact .error _ _ rfl rfl
  · exact .next _ rfl ⟨hsane, hfield⟩ (htrailing ▸ .field) (left_eq_false nofun)

theorem COUNT_HEADER_SIZE_eq (size p : Nat) (proceed : Parser → Round) :
    parser.COUNT_HEADER_SIZE size p proceed = proceed { parser with nread := (parser.nread + size) % 2 ^ 32 } := by
  have hle : ¬ max_header_size < (parser.nread + size) % 2 ^ 32 := by
    unfold max_header_size
    omega
  exact if_neg hle

theorem matching_spec (parser : Parser) (c : UInt8) (str : SharedString) (matched mismatched : HeaderState) :
    ∃ header_state index, parser.matching c str matched mismatched = { parser with header_state, index } ∧
      header_state ∈ [parser.header_state, matched, mismatched] := by
  unfold matching
  dsimp only
  split_ifs
  · exact ⟨_, _, rfl, by simp⟩
  · exact ⟨_, _, rfl, by simp⟩
  · exact ⟨_, _, rfl, by simp⟩

theorem headerFieldChar_spec (parser : Parser) (ch : UInt8) (hfield : parser.header_state.ofField = true) :
    ∃ header_state index, parser.headerFieldChar ch = some { parser with header_state, index } ∧
      header_state.ofField = true := by
  have hmatching : ∀ (c : UInt8) (str : SharedString) (matched : HeaderState), matched.ofField = true →
      ∃ header_state index,
        some (parser.matching c str matched .h_general) = some { parser with header_state, index } ∧
          header_state.ofField = true := by
    intro c str matched hmatched
    obtain ⟨header_state, index, heq, hmem⟩ := matching_spec parser c str matched .h_general
    refine ⟨header_state, index, congrArg some heq, ?_⟩
    simp only [List.mem_cons, List.not_mem_nil, or_false] at hmem
    rcases hmem with rfl | rfl | rfl
    · exact hfield
    · exact hmatched
    · rfl
  unfold headerFieldChar
  cases hstate : parser.header_state <;> rw [hstate] at hfield <;> cases hfield
  case h_general => exact ⟨_, _, rfl, hstate ▸ rfl⟩
  case h_C => refine ⟨_, _, rfl, ?_⟩; split <;> rfl
  case h_CO => refine ⟨_, _, rfl, ?_⟩; split <;> rfl
  case h_CON => refine ⟨_, _, rfl, ?_⟩; split_ifs <;> rfl
  case h_matching_connection => exact hmatching _ _ _ rfl
  case h_matching_proxy_connection => exact hmatching _ _ _ rfl
  case h_matching_content_length => exact hmatching _ _ _ rfl
  case h_matching_transfer_encoding => exact hmatching _ _ _ rfl
  case h_matching_upgrade => exact hmatching _ _ _ rfl
  all_goals
    by_cases hch : ch = byte ' '
    · exact ⟨parser.header_state, parser.index, by rw [if_neg (not_not.mpr hch)], by rw [hstate]; rfl⟩
    · exact ⟨.h_general, parser.index, by rw [if_pos hch], rfl⟩

theorem headerField_spec (hsane : parser.Sane) (hstate : parser.state = .s_header_field)
    (hfield : parser.header_state.ofField = true) : RoundSpec parser (headerFieldLoop 0 parser [ch]) := by
  have hplace : parser.place = .field parser.flags.F_TRAILING := by simp [place, hstate]
  simp only [headerFieldLoop, COUNT_HEADER_SIZE_eq]
  split
  · split
    · exact .next _ rfl ⟨hsane, trivial⟩ (hplace ▸ .fieldEnd) fun _ => left_eq_false nofun
    · exact .error _ _ rfl .nothing
  · obtain ⟨header_state, index, hchar, hafter⟩ := headerFieldChar_spec parser ch hfield
    have hinvariant : ({ parser with header_state, index, nread := (parser.nread + 0) % 2 ^ 32 }).StateInvariant := by
      simpa [StateInvariant, hstate] using hafter
    have hplaceAfter : ({ parser with header_state, index, nread := (parser.nread + 0) % 2 ^ 32 }).place =
        .field parser.flags.F_TRAILING := by simp [place, hstate]
    have hnot := left_eq_false (hplaceAfter.trans_ne nofun)
    rw [hchar]
    exact .next _ rfl ⟨hsane, hinvariant⟩ (by rw [hplace, hplaceAfter]; exact .field) fun _ => hnot

/-- What holds in the middle of a value -/
structure InValue (trailing : Bool) (parser : Parser) : Prop where
  sane : parser.Sane
  state : parser.state = .s_header_value
  trailing : parser.flags.F_TRAILING = trailing
  header_state : parser.header_state ≠ .h_connection ∧ parser.header_state ≠ .h_transfer_encoding

theorem InValue.place (hvalue : parser.InValue trailing) : parser.place = .value trailing := by
  simp [Parser.place, hvalue.state, hvalue.trailing]

theorem InValue.valid (hvalue : parser.InValue trailing) : parser.Valid :=
  ⟨hvalue.sane, by simpa [StateInvariant, hvalue.state] using hvalue.header_state⟩

theorem firstConnectionToken_spec {c : UInt8} {header_state : HeaderState}
    (hfirst : firstConnectionToken c = some header_state) :
    header_state ≠ .h_connection ∧ header_state ≠ .h_transfer_encoding := by
  unfold firstConnectionToken at hfirst
  split_ifs at hfirst <;> cases hfirst <;> exact ⟨nofun, nofun⟩

theorem digit_le (ch : UInt8) : (ch - byte '0').toNat ≤ ULLONG_MAX :=
  (UInt8.toNat_lt _).le.trans (by unfold ULLONG_MAX; omega)

theorem headerValueStart_spec {before : Parser} (hsane : parser.Sane) (htrailing : parser.flags.F_TRAILING = trailing)
    (hmoves : Moves before.place [.MARK .header_value] (.value trailing))
    (hrefuses : Refuses before.place [.MARK .header_value]) : RoundSpec before (parser.headerValueStart ch) := by
  have hgo : ∀ after : Parser, after.InValue trailing →
      RoundSpec before ((Round.next after).after [.MARK .header_value]) :=
    fun after hafter => .does hafter.valid (hafter.place ▸ hmoves) (by simp [hafter.place])
  have hfail : ∀ (errno : HttpParser.http_errno) (after : Parser),
      RoundSpec before ((Round.error errno after).after [.MARK .header_value]) :=
    fun errno after => .error errno after rfl hrefuses
  unfold headerValueStart
  cases hstate : parser.header_state <;> dsimp only
  case h_upgrade => exact hgo _ ⟨hsane, rfl, htrailing, nofun, nofun⟩
  case h_transfer_encoding =>
    refine hgo _ ⟨hsane, rfl, htrailing, ?_⟩
    dsimp only
    split <;> exact ⟨nofun, nofun⟩
  case h_content_length =>
    split_ifs
    · exact hfail _ _
    · exact hgo _ ⟨⟨hsane.1, digit_le ch⟩, rfl, htrailing, nofun, nofun⟩
    · exact hfail _ _
  case h_content_length_ws => exact hgo _ ⟨hsane, rfl, htrailing, nofun, nofun⟩
  case h_connection =>
    refine hgo _ ⟨hsane, rfl, htrailing, ?_⟩
    cases hfirst : firstConnectionToken (LOWER ch) with
    | none => exact ⟨nofun, nofun⟩
    | some header_state => exact firstConnectionToken_spec hfirst
  case h_matching_connection_token_start => exact hgo _ ⟨hsane, rfl, htrailing, nofun, nofun⟩
  all_goals exact hgo _ ⟨hsane, rfl, htrailing, nofun, nofun⟩

theorem contentLengthNum_spec (ch : UInt8) (hvalue : parser.InValue trailing) :
    (∃ after, parser.contentLengthNum ch = .ok after ∧ after.InValue trailing) ∨
      ∃ errno after, parser.contentLengthNum ch = .error (errno, after) := by
  unfold contentLengthNum
  split
  · exact .inl ⟨_, rfl, hvalue.sane, hvalue.state, hvalue.trailing, nofun, nofun⟩
  split
  · dsimp only
    split
    · exact .inr ⟨_, _, rfl⟩
    · refine .inl ⟨_, rfl, ⟨hvalue.sane.1, ?_⟩, hvalue.state, hvalue.trailing, hvalue.header_state⟩
      exact Nat.le_sub_one_of_lt (Nat.mod_lt _ (by omega))
  · exact .inr ⟨_, _, rfl⟩

theorem connectionFlag_trailing : parser.connectionFlag.F_TRAILING = parser.flags.F_TRAILING := by
  unfold connectionFlag
  split <;> rfl

theorem headerValueChar_spec (ch : UInt8) (hvalue : parser.InValue trailing) :
    (∃ after, parser.headerValueChar ch = some (.ok after) ∧ after.InValue trailing) ∨
      ∃ errno after, parser.headerValueChar ch = some (.error (errno, after)) := by
  have hto : ∀ header_state : HeaderState, header_state ≠ .h_connection ∧ header_state ≠ .h_transfer_encoding →
      ({ parser with header_state }).InValue trailing :=
    fun header_state hafter => ⟨hvalue.sane, hvalue.state, hvalue.trailing, hafter⟩
  have hmatching : ∀ (str : SharedString) (matched mismatched : HeaderState),
      matched ≠ .h_connection ∧ matched ≠ .h_transfer_encoding →
      mismatched ≠ .h_connection ∧ mismatched ≠ .h_transfer_encoding →
      (parser.matching (LOWER ch) str matched mismatched).InValue trailing := by
    intro str matched mismatched hmatched hmismatched
    obtain ⟨header_state, index, heq, hmem⟩ := matching_spec parser (LOWER ch) str matched mismatched
    rw [heq]
    refine ⟨hvalue.sane, hvalue.state, hvalue.trailing, ?_⟩
    simp only [List.mem_cons, List.not_mem_nil, or_false] at hmem
    rcases hmem with rfl | rfl | rfl
    · exact hvalue.header_state
    · exact hmatched
    · exact hmismatched
  have hconnection : (if ch = byte ',' then
        { parser with
          flags := parser.connectionFlag
          header_state := .h_matching_connection_token_start
          index := 0 }
      else if ch ≠ byte ' ' then { parser with header_state := .h_matching_connection_token }
      else parser).InValue trailing := by
    split_ifs
    · exact ⟨hvalue.sane, hvalue.state, connectionFlag_trailing.trans hvalue.trailing, nofun, nofun⟩
    · exact hto _ ⟨nofun, nofun⟩
    · exact hvalue
  unfold headerValueChar
  cases hstate : parser.header_state <;> dsimp only
  case h_connection => exact absurd hstate hvalue.header_state.1
  case h_transfer_encoding => exact absurd hstate hvalue.header_state.2
  case h_general => exact .inl ⟨_, rfl, hvalue⟩
  case h_content_length =>
    split
    · exact .inl ⟨_, rfl, hvalue⟩
    · simpa using contentLengthNum_spec ch (hto .h_content_length_num ⟨nofun, nofun⟩)
  case h_content_length_num => simpa using contentLengthNum_spec ch hvalue
  case h_content_length_ws =>
    split
    · exact .inl ⟨_, rfl, hvalue⟩
    · exact .inr ⟨_, _, rfl⟩
  case h_matching_transfer_encoding_chunked =>
    exact .inl ⟨_, rfl, hmatching _ _ _ ⟨nofun, nofun⟩ ⟨nofun, nofun⟩⟩
  case h_matching_connection_token_start =>
    refine .inl ⟨_, rfl, hto _ ?_⟩
    cases hfirst : firstConnectionToken (LOWER ch) with
    | some header_state => exact firstConnectionToken_spec hfirst
    | none =>
      dsimp only
      split_ifs
      · exact ⟨nofun, nofun⟩
      · exact ⟨nofun, nofun⟩
      · exact ⟨nofun, nofun⟩
  case h_matching_connection_keep_alive => exact .inl ⟨_, rfl, hmatching _ _ _ ⟨nofun, nofun⟩ ⟨nofun, nofun⟩⟩
  case h_matching_connection_close => exact .inl ⟨_, rfl, hmatching _ _ _ ⟨nofun, nofun⟩ ⟨nofun, nofun⟩⟩
  case h_matching_connection_upgrade => exact .inl ⟨_, rfl, hmatching _ _ _ ⟨nofun, nofun⟩ ⟨nofun, nofun⟩⟩
  case h_matching_connection_token =>
    refine .inl ⟨_, rfl, ?_⟩
    split
    · exact ⟨hvalue.sane, hvalue.state, hvalue.trailing, nofun, nofun⟩
    · exact hvalue
  case h_transfer_encoding_chunked =>
    refine .inl ⟨_, rfl, ?_⟩
    split
    · exact hto _ ⟨nofun, nofun⟩
    · exact hvalue
  case h_connection_keep_alive => exact .inl ⟨_, rfl, hconnection⟩
  case h_connection_close => exact .inl ⟨_, rfl, hconnection⟩
  case h_connection_upgrade => exact .inl ⟨_, rfl, hconnection⟩
  all_goals exact .inl ⟨_, rfl, hvalue.sane, rfl, hvalue.trailing, nofun, nofun⟩

theorem headerValue_spec (hvalue : parser.InValue trailing) :
    RoundSpec parser (headerValueLoop parser.header_state 0 parser [ch]) := by
  have hend : ∀ (after : Parser), after.Valid → after.place = .valueEnd trailing →
      RoundSpec parser ((Round.next after).after [.CALLBACK_DATA .header_value 0]) :=
    fun after hafter hplace => .does hafter (hvalue.place ▸ hplace ▸ .valueEnd) (by simp [hplace])
  simp only [headerValueLoop, COUNT_HEADER_SIZE_eq]
  split
  · exact hend _ ⟨hvalue.sane, trivial⟩ (congrArg _ hvalue.trailing)
  split
  · exact hend _ ⟨hvalue.sane, trivial⟩ (congrArg _ hvalue.trailing)
  split
  · obtain ⟨after, hchar, hafter⟩ | ⟨errno, after, hchar⟩ := headerValueChar_spec ch hvalue <;> rw [hchar]
    · have hcounted : ({ after with nread := (after.nread + (0 + 1 - 1)) % 2 ^ 32 }).InValue trailing :=
        ⟨hafter.sane, hafter.state, hafter.trailing, hafter.header_state⟩
      have hnot := left_eq_false (hcounted.place.trans_ne nofun)
      exact .next _ rfl hcounted.valid (by rw [hvalue.place, hcounted.place]; exact .value) fun _ => hnot
    · exact .error _ _ rfl .nothing
  · exact .error _ _ rfl .nothing

theorem headerValueDiscardWs_spec (hsane : parser.Sane) (hstate : parser.state = .s_header_value_discard_ws) :
    RoundSpec parser (parser.headerValueDiscardWs ch) := by
  have hplace : parser.place = .fieldEnd parser.flags.F_TRAILING := by simp [place, hstate]
  unfold headerValueDiscardWs
  split
  · exact .go ⟨hsane, by simp [StateInvariant, hstate]⟩ (by rw [hplace]; exact .blank) (by simp [hplace])
  split
  · exact .go ⟨hsane, trivial⟩ (hplace ▸ .blank) nofun
  split
  · exact .go ⟨hsane, trivial⟩ (hplace ▸ .blank) nofun
  · exact headerValueStart_spec hsane rfl (hplace ▸ .valueBegin) (hplace ▸ .value)

theorem headerValueDiscardWsAlmostDone_spec (hsane : parser.Sane)
    (hstate : parser.state = .s_header_value_discard_ws_almost_done) :
    RoundSpec parser (parser.headerValueDiscardWsAlmostDone ch) := by
  have hplace : parser.place = .fieldEnd parser.flags.F_TRAILING := by simp [place, hstate]
  unfold headerValueDiscardWsAlmostDone
  split
  · exact .go ⟨hsane, trivial⟩ (hplace ▸ .blank) nofun
  · exact .refuse

theorem headerFinished_trailing : parser.headerFinished.flags.F_TRAILING = parser.flags.F_TRAILING := by
  unfold headerFinished
  dsimp only
  split
  · rfl
  · exact connectionFlag_trailing

theorem headerValueDiscardLws_spec (hsane : parser.Sane) (hstate : parser.state = .s_header_value_discard_lws) :
    RoundSpec parser (parser.headerValueDiscardLws ch) := by
  have hplace : parser.place = .fieldEnd parser.flags.F_TRAILING := by simp [place, hstate]
  unfold headerValueDiscardLws
  split
  · exact .go ⟨hsane, trivial⟩ (hplace ▸ .blank) nofun
  split
  · exact .refuse
  · exact LineSpec.round [.MARK .header_value, .CALLBACK_DATA .header_value 0]
      (headerFieldStart_spec hsane headerFinished_trailing) (fun hline => hplace ▸ .valueEmpty hline) (hplace ▸ .valueEmpty)

theorem headerAlmostDone_spec (hsane : parser.Sane) (hstate : parser.state = .s_header_almost_done) :
    RoundSpec parser (parser.headerAlmostDone ch) := by
  have hplace : parser.place = .valueEnd parser.flags.F_TRAILING := by simp [place, hstate]
  unfold headerAlmostDone
  split
  · exact .go ⟨hsane, trivial⟩ (hplace ▸ .lineEnd) nofun
  · exact .refuse

theorem headerValueLws_spec (hsane : parser.Sane) (hstate : parser.state = .s_header_value_lws) :
    RoundSpec parser (parser.headerValueLws ch) := by
  have hplace : parser.place = .valueEnd parser.flags.F_TRAILING := by simp [place, hstate]
  unfold headerValueLws
  split
  · exact headerValueStart_spec hsane rfl (hplace ▸ .valueFolded) (hplace ▸ .valueFolded)
  · exact LineSpec.round [] (headerFieldStart_spec hsane headerFinished_trailing)
      (fun hline => hplace ▸ .lineDone hline) .nothing

end headers

section body

theorem unhex_le {value : Nat} (hunhex : unhex ch = some value) : value ≤ 15 := by
  have hall : ∀ ch : UInt8, ∀ value ∈ unhex ch, value ≤ 15 := by decide +kernel
  exact hall ch value hunhex

theorem bodyIdentity_spec (hsane : parser.Sane) (hstate : parser.state = .s_body_identity)
    (hpositive : 0 < parser.content_length) (hlt : parser.content_length < ULLONG_MAX) :
    RoundSpec parser (parser.bodyIdentity 1) := by
  have hplace : parser.place = .data := by simp [place, hstate]
  have hread : min parser.content_length 1 = 1 := by omega
  have hlength : parser.content_length - 1 ≤ ULLONG_MAX := by omega
  unfold bodyIdentity
  rw [if_pos ⟨by omega, by omega⟩, hread]
  dsimp only
  split
  · let after := { parser with content_length := parser.content_length - 1 }
    obtain ⟨hafter, hinvariant⟩ := after.newMessage_spec _ rfl
    have hvalid : ({ after with state := after.NEW_MESSAGE }).Valid := ⟨⟨hsane.1, hlength⟩, hinvariant⟩
    have hleft := left_eq hafter
    have hmoves : Moves parser.place [.MARK .body, .CALLBACK_DATA .body 1, .CALLBACK_NOTIFY .messageComplete]
        ({ after with state := after.NEW_MESSAGE }).place := by
      rw [hplace, hafter]
      exact .dataComplete
    by_cases hupgrade : parser.upgrade = true
    · exact .leave _ (if_pos hupgrade) hvalid hmoves (hleft.trans hupgrade)
    · exact .next _ (if_neg hupgrade) hvalid hmoves fun _ => hleft.trans (Bool.eq_false_iff.mpr hupgrade)
  case isFalse hmore =>
    have hvalid : ({ parser with content_length := parser.content_length - 1 }).Valid := by
      refine ⟨⟨hsane.1, hlength⟩, ?_⟩
      simp only [StateInvariant, hstate]
      exact ⟨by omega, by omega⟩
    have hafter : ({ parser with content_length := parser.content_length - 1 }).place = .data := by simp [place, hstate]
    have hnot := left_eq_false (hafter.trans_ne nofun)
    exact .next _ rfl hvalid (by rw [hplace, hafter]; exact .data (.inl rfl)) fun _ => hnot

theorem chunkSizeStart_spec (hsane : parser.Sane) (hstate : parser.state = .s_chunk_size_start)
    (hchunked : parser.flags.F_CHUNKED = true) (hnread : parser.nread = 1) :
    RoundSpec parser (parser.chunkSizeStart ch) := by
  have hplace : parser.place = .chunk := by simp [place, hstate]
  unfold chunkSizeStart
  rw [if_pos ⟨hnread, hchunked⟩]
  split
  case h_1 value hunhex =>
    have hvalue := unhex_le hunhex
    have hlt : value < ULLONG_MAX := by
      unfold ULLONG_MAX
      omega
    exact .go ⟨⟨hsane.1, hlt.le⟩, hchunked, hlt⟩ (hplace ▸ .chunk) nofun
  case h_2 => exact .refuse

theorem chunkSize_spec (hsane : parser.Sane) (hstate : parser.state = .s_chunk_size)
    (hchunked : parser.flags.F_CHUNKED = true) (hlt : parser.content_length < ULLONG_MAX) :
    RoundSpec parser (parser.chunkSize ch) := by
  have hplace : parser.place = .chunk := by simp [place, hstate]
  unfold chunkSize
  rw [if_pos hchunked]
  split
  · exact .go ⟨hsane, hchunked, hlt⟩ (hplace ▸ .chunk) nofun
  split
  case h_1 value hunhex =>
    have hvalue := unhex_le hunhex
    dsimp only
    split
    · exact .refuse
    case isFalse hsmall =>
      have hafter : (parser.content_length * 16 + value) % 2 ^ 64 < ULLONG_MAX := by
        unfold ULLONG_MAX at hsmall ⊢
        omega
      refine .go ⟨⟨hsane.1, hafter.le⟩, ?_⟩ ?_ ?_
      · simpa [StateInvariant, hstate] using ⟨hchunked, hafter⟩
      · simpa [place, hstate] using Moves.chunk
      · simp [place, hstate]
  case h_2 =>
    split
    · exact .go ⟨hsane, hchunked, hlt⟩ (hplace ▸ .chunk) nofun
    · exact .refuse

theorem chunkParameters_spec (hsane : parser.Sane) (hstate : parser.state = .s_chunk_parameters)
    (hchunked : parser.flags.F_CHUNKED = true) (hlt : parser.content_length < ULLONG_MAX) :
    RoundSpec parser (parser.chunkParameters ch) := by
  have hplace : parser.place = .chunk := by simp [place, hstate]
  unfold chunkParameters
  rw [if_pos hchunked]
  split
  · exact .go ⟨hsane, hchunked, hlt⟩ (hplace ▸ .chunk) nofun
  · exact .go ⟨hsane, by simpa [StateInvariant, hstate] using ⟨hchunked, hlt⟩⟩ (by rw [hplace]; exact .chunk)
      (by simp [hplace])

theorem chunkSizeAlmostDone_spec (hsane : parser.Sane) (hstate : parser.state = .s_chunk_size_almost_done)
    (hchunked : parser.flags.F_CHUNKED = true) (hlt : parser.content_length < ULLONG_MAX) :
    RoundSpec parser (parser.chunkSizeAlmostDone ch) := by
  have hplace : parser.place = .chunk := by simp [place, hstate]
  unfold chunkSizeAlmostDone
  rw [if_pos hchunked]
  split
  case isFalse => exact .refuse
  case isTrue =>
    dsimp only
    split
    · exact .does ⟨hsane, trivial⟩ (hplace ▸ .chunkNotify (.inr (.inr rfl))) nofun
    case isFalse hzero =>
      exact .does ⟨hsane, hchunked, Nat.pos_of_ne_zero hzero, hlt⟩ (hplace ▸ .chunkNotify (.inr (.inl rfl))) nofun

theorem chunkData_spec (hsane : parser.Sane) (hstate : parser.state = .s_chunk_data)
    (hchunked : parser.flags.F_CHUNKED = true) (hpositive : 0 < parser.content_length)
    (hlt : parser.content_length < ULLONG_MAX) : RoundSpec parser (parser.chunkData 1) := by
  have hplace : parser.place = .data := by simp [place, hstate]
  have hread : min parser.content_length 1 = 1 := by omega
  have hlength : parser.content_length - 1 ≤ ULLONG_MAX := by omega
  unfold chunkData
  rw [if_pos ⟨hchunked, by omega, by omega⟩, hread]
  dsimp only
  split
  case isTrue hzero =>
    exact .next _ rfl ⟨⟨hsane.1, hlength⟩, hchunked, hzero⟩ (hplace ▸ .data (.inr rfl)) fun _ => left_eq_false nofun
  case isFalse hmore =>
    have hvalid : ({ parser with content_length := parser.content_length - 1 }).Valid := by
      refine ⟨⟨hsane.1, hlength⟩, ?_⟩
      simp only [StateInvariant, hstate]
      exact ⟨hchunked, by omega, by omega⟩
    have hafter : ({ parser with content_length := parser.content_length - 1 }).place = .data := by simp [place, hstate]
    have hnot := left_eq_false (hafter.trans_ne nofun)
    exact .next _ rfl hvalid (by rw [hplace, hafter]; exact .data (.inl rfl)) fun _ => hnot

theorem chunkDataAlmostDone_spec (hsane : parser.Sane) (hstate : parser.state = .s_chunk_data_almost_done)
    (hchunked : parser.flags.F_CHUNKED = true) (hzero : parser.content_length = 0) :
    RoundSpec parser (parser.chunkDataAlmostDone ch) := by
  have hplace : parser.place = .dataEnd := by simp [place, hstate]
  unfold chunkDataAlmostDone
  rw [if_pos ⟨hchunked, hzero⟩]
  split
  · exact .does ⟨hsane, hchunked⟩ (hplace ▸ .dataEnd) nofun
  · exact .refuse

theorem chunkDataDone_spec (hsane : parser.Sane) (hstate : parser.state = .s_chunk_data_done)
    (hchunked : parser.flags.F_CHUNKED = true) : RoundSpec parser (parser.chunkDataDone ch) := by
  have hplace : parser.place = .chunk := by simp [place, hstate]
  unfold chunkDataDone
  rw [if_pos hchunked]
  split
  · exact .does ⟨hsane, hchunked, rfl⟩ (hplace ▸ .chunkNotify (.inl rfl)) nofun
  · exact .refuse

end body

/-- What the switch comes to. The first character of a chunk size is the first one that is counted. -/
theorem switch_spec (hsane : parser.Sane)
    (hinvariant : (if parser.state = .s_chunk_size_start then parser.flags.F_CHUNKED = true ∧ parser.nread = 1
      else parser.StateInvariant)) : RoundSpec parser (parser.switch ch []) := by
  by_cases hversion : parser.state ∈ versionStates
  · have hother : parser.state ≠ .s_chunk_size_start := fun h => absurd hversion (by rw [h]; decide)
    rw [if_neg hother, (versionStates_spec hversion).2] at hinvariant
    exact version_spec hsane hversion hinvariant []
  by_cases hurl : parser.state ∈ urlStates
  · have hother : parser.state ≠ .s_chunk_size_start := fun h => absurd hurl (by rw [h]; decide)
    rw [if_neg hother, (urlStates_spec parser hurl).2] at hinvariant
    have hplace := (urlStates_spec parser hurl).1
    have hschema : RoundSpec parser (parser.reqSchema ch) := reqSchema_spec hsane hplace hinvariant
    have hrest : RoundSpec parser (parser.reqUrl ch) := reqUrl_spec hsane hplace hinvariant
    simp only [urlStates, List.mem_cons, List.not_mem_nil, or_false] at hurl
    rcases hurl with h | h | h | h | h | h | h | h | h | h | h <;> simp only [switch, h] <;> assumption
  unfold switch
  cases hstate : parser.state <;> simp only [hstate, StateInvariant, reduceCtorEq, if_true, if_false] at hinvariant <;>
    dsimp only
  case s_dead => exact dead_spec hsane hstate
  case s_start_req => exact startReq_spec hsane hstate
  case s_req_method => exact reqMethod_spec hsane hstate hinvariant.1 hinvariant.2
  case s_req_spaces_before_url => exact reqSpacesBeforeUrl_spec hsane hstate hinvariant
  case s_header_field_start =>
    have hplace : parser.place = .headers parser.flags.F_TRAILING := by simp [place, hstate]
    exact LineSpec.round [] (headerFieldStart_spec hsane rfl) (fun hline => hplace ▸ .headers hline) .nothing
  case s_headers_almost_done =>
    have hplace : parser.place = .headers parser.flags.F_TRAILING := by simp [place, hstate]
    exact LineSpec.round [] (headersAlmostDone_spec hsane rfl) (fun hline => hplace ▸ .headers hline)
      .nothing
  case s_header_field => exact headerField_spec hsane hstate hinvariant
  case s_header_value_discard_ws => exact headerValueDiscardWs_spec hsane hstate
  case s_header_value_discard_ws_almost_done => exact headerValueDiscardWsAlmostDone_spec hsane hstate
  case s_header_value_discard_lws => exact headerValueDiscardLws_spec hsane hstate
  case s_header_value => exact headerValue_spec ⟨hsane, hstate, rfl, hinvariant⟩
  case s_header_almost_done => exact headerAlmostDone_spec hsane hstate
  case s_header_value_lws => exact headerValueLws_spec hsane hstate
  case s_body_identity => exact bodyIdentity_spec hsane hstate hinvariant.1 hinvariant.2
  case s_chunk_size_start => exact chunkSizeStart_spec hsane hstate hinvariant.1 hinvariant.2
  case s_chunk_size => exact chunkSize_spec hsane hstate hinvariant.1 hinvariant.2
  case s_chunk_parameters => exact chunkParameters_spec hsane hstate hinvariant.1 hinvariant.2
  case s_chunk_size_almost_done => exact chunkSizeAlmostDone_spec hsane hstate hinvariant.1 hinvariant.2
  case s_chunk_data => exact chunkData_spec hsane hstate hinvariant.1 hinvariant.2.1 hinvariant.2.2
  case s_chunk_data_almost_done => exact chunkDataAlmostDone_spec hsane hstate hinvariant.1 hinvariant.2
  case s_chunk_data_done => exact chunkDataDone_spec hsane hstate hinvariant
  all_goals exact absurd hstate fun h => by simp [h, versionStates, urlStates] at hversion hurl

/-- A round over a character keeps a parser valid, and it never fails. -/
theorem round_spec (parser : Parser) (ch : UInt8) (hvalid : parser.Valid) : RoundSpec parser (parser.round ch []) := by
  unfold round
  split
  case isTrue hheader =>
    rw [COUNT_HEADER_SIZE_eq]
    have hspec : RoundSpec { parser with nread := (parser.nread + 1) % 2 ^ 32 }
        (({ parser with nread := (parser.nread + 1) % 2 ^ 32 }).switch ch []) := by
      refine switch_spec hvalid.sane ?_
      have hinvariant := hvalid.state
      by_cases hstate : parser.state = .s_chunk_size_start
      · simp only [StateInvariant, hstate] at hinvariant
        simp [hstate, hinvariant]
      · rw [if_neg hstate]
        unfold StateInvariant at hinvariant ⊢
        revert hinvariant
        dsimp only
        cases hcase : parser.state <;> first | exact id | exact absurd hcase hstate
    cases hspec with
    | next after hending hvalid hmoves hleft => exact .next after hending hvalid hmoves hleft
    | leave after hending hvalid hmoves hleft => exact .leave after hending hvalid hmoves hleft
    | error errno after hending hrefuses => exact .error errno after hending hrefuses
  case isFalse hbody =>
    refine switch_spec hvalid.sane ?_
    rw [if_neg fun h => hbody (by rw [h]; rfl)]
    exact hvalid.state

end Parser

end specs

end cpv.HttpParser
