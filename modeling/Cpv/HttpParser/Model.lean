import Mathlib.Logic.Function.Basic
import Cpv.Connection.Parser
import Cpv.Core.Buffer
import Cpv.Core.Loop
import Cpv.HttpParser.States

namespace cpv.HttpParser

def ULLONG_MAX : Nat := 2 ^ 64 - 1

/-- `HttpMaxHeaderSizeIsOverridden` sets the largest `uint32_t`. -/
def max_header_size : Nat := 2 ^ 32 - 1

/-- Flag values for the flags field of a parser -/
structure Flags where
  F_CHUNKED : Bool := false
  F_CONNECTION_KEEP_ALIVE : Bool := false
  F_CONNECTION_CLOSE : Bool := false
  F_CONNECTION_UPGRADE : Bool := false
  F_TRAILING : Bool := false
  F_UPGRADE : Bool := false
  F_CONTENTLENGTH : Bool := false
deriving DecidableEq

/-- A parser of requests, as `http_parser_init` makes it. There is no `http_errno` where it is `HPE_OK`. -/
structure Parser where
  flags : Flags := {}
  state : State := .s_start_req
  header_state : HeaderState := .h_general
  index : Nat := 0
  nread : Nat := 0
  content_length : Nat := 0
  http_major : Nat := 0
  http_minor : Nat := 0
  method : http_method := .DELETE
  http_errno : Option http_errno := none
  upgrade : Bool := false
deriving DecidableEq

/-- What a mark is set for -/
inductive Data
  | header_field
  | header_value
  | url
  | body
deriving DecidableEq

def Data.event : Data → SharedString → ParserEvent
  | .header_field, str => .headerField str
  | .header_value, str => .headerValue str
  | .url, str => .url str
  | .body, str => .body str

/-- What is done with the marks and the callbacks. Offsets are counted from the first character of the round on. The
    callbacks of chunks do nothing in a connection. -/
inductive Action
  | MARK (FOR : Data)
  | CALLBACK_DATA (FOR : Data) (stop : Nat)
  | CALLBACK_NOTIFY (event : ParserEvent)

/-- How a round of the loop over the characters ends -/
inductive Ending
  /-- `p` is at an offset, and the next round begins behind it. -/
  | next (parser : Parser) (p : Nat)
  /-- The rest of the message is in a different protocol. -/
  | leave (parser : Parser) (p : Nat)
  | error (errno : http_errno) (parser : Parser) (p : Nat)
  /-- An assertion does not hold, or something outside of a string is read. -/
  | failed

structure Round where
  actions : List Action := []
  ending : Ending

namespace Round

def next (parser : Parser) : Round := { ending := .next parser 0 }

def error (errno : http_errno) (parser : Parser) : Round := { ending := .error errno parser 0 }

def failed : Round := { ending := .failed }

/-- A round that has done something before -/
def after (actions : List Action) (round : Round) : Round := { round with actions := actions ++ round.actions }

end Round

namespace Parser

variable (parser : Parser) (ch : UInt8)

/-- `http_message_needs_eof` is false for every request. -/
def http_should_keep_alive : Bool :=
  if 0 < parser.http_major ∧ 0 < parser.http_minor then !parser.flags.F_CONNECTION_CLOSE
  else parser.flags.F_CONNECTION_KEEP_ALIVE

def NEW_MESSAGE : State := if parser.http_should_keep_alive then .s_start_req else .s_dead

/-- Don't allow the total size of the HTTP headers to exceed `max_header_size`. -/
def COUNT_HEADER_SIZE (size p : Nat) (proceed : Parser → Round) : Round :=
  let parser := { parser with nread := (parser.nread + size) % 2 ^ 32 }
  if max_header_size < parser.nread then { ending := .error .HPE_HEADER_OVERFLOW parser p } else proceed parser

section line

def startReq : Round :=
  if ch = CR ∨ ch = LF then .next parser
  else
    let parser := { parser with flags := {}, content_length := ULLONG_MAX }
    if IS_ALPHA ch then
      match firstMethod ch with
      | some method =>
        (Round.next { parser with method, index := 1, state := .s_req_method }).after [.CALLBACK_NOTIFY .messageBegin]
      | none => .error .HPE_INVALID_METHOD parser
    else .error .HPE_INVALID_METHOD parser

def reqMethod : Round :=
  if ch = 0 then .error .HPE_INVALID_METHOD parser
  else
    match (parser.method.method_string ++ [0])[parser.index]? with
    | none => .failed
    | some matcher =>
      if ch = byte ' ' ∧ matcher = 0 then
        .next { parser with index := parser.index + 1, state := .s_req_spaces_before_url }
      else if ch = matcher then .next { parser with index := parser.index + 1 }
      else if byte 'A' ≤ ch ∧ ch ≤ byte 'Z' ∨ ch = byte '-' then
        match otherMethods.lookup (parser.method, parser.index, ch) with
        | some method => .next { parser with method, index := parser.index + 1 }
        | none => .error .HPE_INVALID_METHOD parser
      else .error .HPE_INVALID_METHOD parser

/-- The url goes on with a character. -/
def urlChar : Round :=
  let parser := { parser with state := parse_url_char parser.state ch }
  if parser.state = .s_dead then .error .HPE_INVALID_URL parser else .next parser

def reqSpacesBeforeUrl : Round :=
  if ch = byte ' ' then .next parser
  else
    let parser := if parser.method = .CONNECT then { parser with state := .s_req_server_start } else parser
    (parser.urlChar ch).after [.MARK .url]

/-- The states of a url in which no whitespace is allowed -/
def reqSchema : Round :=
  if ch = byte ' ' ∨ ch = CR ∨ ch = LF then .error .HPE_INVALID_URL parser else parser.urlChar ch

/-- The states in which a url can end -/
def reqUrl : Round :=
  if ch = byte ' ' then (Round.next { parser with state := .s_req_http_start }).after [.CALLBACK_DATA .url 0]
  else if ch = CR ∨ ch = LF then
    (Round.next
      { parser with
        http_major := 0
        http_minor := 9
        state := if ch = CR then .s_req_line_almost_done else .s_header_field_start }).after [.CALLBACK_DATA .url 0]
  else parser.urlChar ch

def reqHttpStart : Round :=
  if ch = byte ' ' then .next parser
  else if ch = byte 'H' then .next { parser with state := .s_req_http_H }
  else if ch = byte 'I' ∧ parser.method = .SOURCE then .next { parser with state := .s_req_http_I }
  else .error .HPE_INVALID_CONSTANT parser

/-- A character of the constant in front of the version -/
def constant (expected : UInt8) (state : State) : Round :=
  if ch = expected then .next { parser with state } else .error .HPE_STRICT parser

def reqHttpMajor : Round :=
  if IS_NUM ch then .next { parser with http_major := (ch - byte '0').toNat, state := .s_req_http_dot }
  else .error .HPE_INVALID_VERSION parser

def reqHttpDot : Round :=
  if ch = byte '.' then .next { parser with state := .s_req_http_minor } else .error .HPE_INVALID_VERSION parser

def reqHttpMinor : Round :=
  if IS_NUM ch then .next { parser with http_minor := (ch - byte '0').toNat, state := .s_req_http_end }
  else .error .HPE_INVALID_VERSION parser

def reqHttpEnd : Round :=
  if ch = CR then .next { parser with state := .s_req_line_almost_done }
  else if ch = LF then .next { parser with state := .s_header_field_start }
  else .error .HPE_INVALID_VERSION parser

/-- end of request line -/
def reqLineAlmostDone : Round :=
  if ch = LF then .next { parser with state := .s_header_field_start } else .error .HPE_LF_EXPECTED parser

end line

section headers

def messageDone : Round :=
  let parser := { parser with state := parser.NEW_MESSAGE }
  { actions := [.CALLBACK_NOTIFY .messageComplete]
    ending := if parser.upgrade then .leave parser 0 else .next parser 0 }

def headersDone : Round :=
  if ch = LF then
    let parser := { parser with nread := 0 }
    let hasBody := parser.flags.F_CHUNKED || (0 < parser.content_length && parser.content_length != ULLONG_MAX)
    if parser.upgrade ∧ (parser.method = .CONNECT ∨ !hasBody) then
      -- the rest of the message is in a different protocol
      { actions := [.CALLBACK_NOTIFY .messageComplete]
        ending := .leave { parser with state := parser.NEW_MESSAGE } 0 }
    else if parser.flags.F_CHUNKED then .next { parser with state := .s_chunk_size_start }
    else if parser.content_length ≠ 0 ∧ parser.content_length ≠ ULLONG_MAX then
      .next { parser with state := .s_body_identity }
    else
      -- a length of zero, or none, which is the same for a request
      (Round.next { parser with state := parser.NEW_MESSAGE }).after [.CALLBACK_NOTIFY .messageComplete]
  else .error .HPE_STRICT parser

def headersAlmostDone : Round :=
  if ch = LF then
    if parser.flags.F_TRAILING then
      -- end of a chunked request, the first callback is the one of the chunk
      ({ parser with state := .s_message_done }.messageDone).after [.CALLBACK_NOTIFY .skip]
    else if parser.flags.F_CHUNKED ∧ parser.flags.F_CONTENTLENGTH then
      .error .HPE_UNEXPECTED_CONTENT_LENGTH parser
    else
      let upgrade :=
        if parser.flags.F_UPGRADE ∧ parser.flags.F_CONNECTION_UPGRADE then true else decide (parser.method = .CONNECT)
      ({ parser with state := .s_headers_done, upgrade }.headersDone ch).after
        [.CALLBACK_NOTIFY (.headersComplete parser.method.method_string parser.http_major parser.http_minor)]
  else .error .HPE_STRICT parser

/-- What the first character of a header field may be the first one of -/
def firstHeaderState (c : UInt8) : HeaderState :=
  if c = byte 'c' then .h_C
  else if c = byte 'p' then .h_matching_proxy_connection
  else if c = byte 't' then .h_matching_transfer_encoding
  else if c = byte 'u' then .h_matching_upgrade
  else .h_general

def headerFieldStart : Round :=
  if ch = CR then .next { parser with state := .s_headers_almost_done }
  else if ch = LF then { parser with state := .s_headers_almost_done }.headersAlmostDone ch
  else if TOKEN ch = 0 then .error .HPE_INVALID_HEADER_TOKEN parser
  else
    (Round.next
      { parser with
        index := 0
        state := .s_header_field
        header_state := firstHeaderState (TOKEN ch) }).after [.MARK .header_field]

/-- A character is compared with the one of a string at the next index. -/
def matching (c : UInt8) (str : SharedString) (matched mismatched : HeaderState) : Parser :=
  let parser := { parser with index := parser.index + 1 }
  if str.length < parser.index ∨ c ≠ str.getD parser.index 0 then { parser with header_state := mismatched }
  else if parser.index = str.length - 1 then { parser with header_state := matched }
  else parser

/-- A token of a header field -/
def headerFieldChar : Option Parser :=
  let c := TOKEN ch
  match parser.header_state with
  | .h_general => some parser
  | .h_C =>
    some
      { parser with
        index := parser.index + 1
        header_state := if c = byte 'o' then .h_CO else .h_general }
  | .h_CO =>
    some
      { parser with
        index := parser.index + 1
        header_state := if c = byte 'n' then .h_CON else .h_general }
  | .h_CON =>
    some
      { parser with
        index := parser.index + 1
        header_state :=
          if c = byte 'n' then .h_matching_connection
          else if c = byte 't' then .h_matching_content_length
          else .h_general }
  | .h_matching_connection => some (parser.matching c (text "connection") .h_connection .h_general)
  | .h_matching_proxy_connection => some (parser.matching c (text "proxy-connection") .h_connection .h_general)
  | .h_matching_content_length => some (parser.matching c (text "content-length") .h_content_length .h_general)
  | .h_matching_transfer_encoding => some (parser.matching c (text "transfer-encoding") .h_transfer_encoding .h_general)
  | .h_matching_upgrade => some (parser.matching c (text "upgrade") .h_upgrade .h_general)
  | .h_connection | .h_content_length | .h_transfer_encoding | .h_upgrade =>
    some (if ch ≠ byte ' ' then { parser with header_state := .h_general } else parser)
  | _ => none

/-- The loop over the tokens of a header field, from an offset on. In `h_general` it reads them all in a loop of its own,
    which changes nothing. -/
def headerFieldLoop (n : Nat) (parser : Parser) : List UInt8 → Round
  | [] => parser.COUNT_HEADER_SIZE (n - 1) (n - 1) fun parser => { ending := .next parser (n - 1) }
  | ch :: rest =>
    if TOKEN ch = 0 then
      parser.COUNT_HEADER_SIZE n n fun parser =>
        if ch = byte ':' then
          { actions := [.CALLBACK_DATA .header_field n]
            ending := .next { parser with state := .s_header_value_discard_ws } n }
        else { ending := .error .HPE_INVALID_HEADER_TOKEN parser n }
    else
      match parser.headerFieldChar ch with
      | some parser => headerFieldLoop (n + 1) parser rest
      | none => .failed

/-- What the first character of a value of `Connection` may be the first one of -/
def firstConnectionToken (c : UInt8) : Option HeaderState :=
  if c = byte 'k' then some .h_matching_connection_keep_alive
  else if c = byte 'c' then some .h_matching_connection_close
  else if c = byte 'u' then some .h_matching_connection_upgrade
  else none

def headerValueStart : Round :=
  let parser := { parser with state := .s_header_value, index := 0 }
  let c := LOWER ch
  Round.after [.MARK .header_value]
    (match parser.header_state with
    | .h_upgrade => .next { parser with flags := { parser.flags with F_UPGRADE := true }, header_state := .h_general }
    | .h_transfer_encoding =>
      .next
        { parser with
          header_state := if c = byte 'c' then .h_matching_transfer_encoding_chunked else .h_general }
    | .h_content_length =>
      if IS_NUM ch then
        if parser.flags.F_CONTENTLENGTH then .error .HPE_UNEXPECTED_CONTENT_LENGTH parser
        else
          .next
            { parser with
              flags := { parser.flags with F_CONTENTLENGTH := true }
              content_length := (ch - byte '0').toNat
              header_state := .h_content_length_num }
      else .error .HPE_INVALID_CONTENT_LENGTH parser
    -- when obsolete line folding is encountered for content length continue to the s_header_value state
    | .h_content_length_ws => .next parser
    | .h_connection =>
      .next { parser with header_state := (firstConnectionToken c).getD .h_matching_connection_token }
    -- multi-value `Connection` header
    | .h_matching_connection_token_start => .next parser
    | _ => .next { parser with header_state := .h_general })

def headerValueDiscardWs : Round :=
  if ch = byte ' ' ∨ ch = byte '\t' then .next parser
  else if ch = CR then .next { parser with state := .s_header_value_discard_ws_almost_done }
  else if ch = LF then .next { parser with state := .s_header_value_discard_lws }
  else parser.headerValueStart ch

/-- A digit of a content length. The overflow is tested against a conservative limit. -/
def contentLengthNum : Except (HttpParser.http_errno × Parser) Parser :=
  if ch = byte ' ' then .ok { parser with header_state := .h_content_length_ws }
  else if IS_NUM ch then
    let t := (parser.content_length * 10 + (ch - byte '0').toNat) % 2 ^ 64
    if (ULLONG_MAX - 10) / 10 < parser.content_length then .error (.HPE_INVALID_CONTENT_LENGTH, parser)
    else .ok { parser with content_length := t }
  else .error (.HPE_INVALID_CONTENT_LENGTH, parser)

/-- The flag of a token of `Connection` that is complete -/
def connectionFlag : Flags :=
  match parser.header_state with
  | .h_connection_keep_alive => { parser.flags with F_CONNECTION_KEEP_ALIVE := true }
  | .h_connection_close => { parser.flags with F_CONNECTION_CLOSE := true }
  | .h_connection_upgrade => { parser.flags with F_CONNECTION_UPGRADE := true }
  | _ => parser.flags

/-- A character of a header value. There is no result where an assertion does not hold. -/
def headerValueChar : Option (Except (HttpParser.http_errno × Parser) Parser) :=
  let c := LOWER ch
  match parser.header_state with
  | .h_general => some (.ok parser)
  | .h_connection | .h_transfer_encoding => none
  | .h_content_length =>
    if ch = byte ' ' then some (.ok parser)
    else some ({ parser with header_state := .h_content_length_num }.contentLengthNum ch)
  | .h_content_length_num => some (parser.contentLengthNum ch)
  | .h_content_length_ws => some (if ch = byte ' ' then .ok parser else .error (.HPE_INVALID_CONTENT_LENGTH, parser))
  | .h_matching_transfer_encoding_chunked =>
    some (.ok (parser.matching c (text "chunked") .h_transfer_encoding_chunked .h_general))
  | .h_matching_connection_token_start =>
    some
      (.ok
        { parser with
          header_state :=
            match firstConnectionToken c with
            | some state => state
            | none =>
              if STRICT_TOKEN c ≠ 0 then .h_matching_connection_token
              else if c = byte ' ' ∨ c = byte '\t' then parser.header_state
              else .h_general })
  | .h_matching_connection_keep_alive =>
    some (.ok (parser.matching c (text "keep-alive") .h_connection_keep_alive .h_matching_connection_token))
  | .h_matching_connection_close =>
    some (.ok (parser.matching c (text "close") .h_connection_close .h_matching_connection_token))
  | .h_matching_connection_upgrade =>
    some (.ok (parser.matching c (text "upgrade") .h_connection_upgrade .h_matching_connection_token))
  | .h_matching_connection_token =>
    some
      (.ok
        (if ch = byte ',' then { parser with header_state := .h_matching_connection_token_start, index := 0 }
        else parser))
  | .h_transfer_encoding_chunked =>
    some (.ok (if ch ≠ byte ' ' then { parser with header_state := .h_general } else parser))
  | .h_connection_keep_alive | .h_connection_close | .h_connection_upgrade =>
    some
      (.ok
        (if ch = byte ',' then
          { parser with
            flags := parser.connectionFlag
            header_state := .h_matching_connection_token_start
            index := 0 }
        else if ch ≠ byte ' ' then { parser with header_state := .h_matching_connection_token }
        else parser))
  | _ => some (.ok { parser with state := .s_header_value, header_state := .h_general })

def headerAlmostDone : Round :=
  if ch = LF then .next { parser with state := .s_header_value_lws } else .error .HPE_LF_EXPECTED parser

/-- The loop over the characters of a header value, from an offset on. In `h_general` it reads them all in a loop of its
    own, which looks at each in the same way: no buffer has more than `max_header_size` characters. The header state is
    kept in a variable, which an invalid token does not bring back. -/
def headerValueLoop (header_state : HeaderState) (n : Nat) (parser : Parser) : List UInt8 → Round
  | [] => parser.COUNT_HEADER_SIZE (n - 1) (n - 1) fun parser => { ending := .next parser (n - 1) }
  | ch :: rest =>
    if ch = CR then
      Round.after [.CALLBACK_DATA .header_value n]
        ({ parser with state := .s_header_almost_done }.COUNT_HEADER_SIZE n n fun parser =>
          { ending := .next parser n })
    else if ch = LF then
      { parser with state := .s_header_almost_done }.COUNT_HEADER_SIZE n n fun parser =>
        { actions := [.CALLBACK_DATA .header_value n]
          -- `s_header_almost_done` is executed with the same character
          ending := .next { parser with state := .s_header_value_lws } n }
    else if IS_HEADER_CHAR ch then
      match parser.headerValueChar ch with
      | some (.ok parser) => headerValueLoop header_state (n + 1) parser rest
      | some (.error (errno, parser)) => { ending := .error errno parser n }
      | none => .failed
    else { ending := .error .HPE_INVALID_HEADER_TOKEN { parser with header_state } n }

/-- finished the header -/
def headerFinished : Parser :=
  { parser with
    flags :=
      if parser.header_state = .h_transfer_encoding_chunked then { parser.flags with F_CHUNKED := true }
      else parser.connectionFlag
    state := .s_header_field_start }

def headerValueLws : Round :=
  if ch = byte ' ' ∨ ch = byte '\t' then
    -- treat obsolete line folding as space
    let header_state :=
      if parser.header_state = .h_content_length_num then .h_content_length_ws else parser.header_state
    { parser with header_state, state := .s_header_value_start }.headerValueStart ch
  else parser.headerFinished.headerFieldStart ch

def headerValueDiscardWsAlmostDone : Round :=
  if ch = LF then .next { parser with state := .s_header_value_discard_lws } else .error .HPE_STRICT parser

def headerValueDiscardLws : Round :=
  if ch = byte ' ' ∨ ch = byte '\t' then .next { parser with state := .s_header_value_discard_ws }
  else if parser.header_state = .h_content_length then
    -- do not allow empty content length
    .error .HPE_INVALID_CONTENT_LENGTH parser
  else
    -- header value was empty
    (parser.headerFinished.headerFieldStart ch).after [.MARK .header_value, .CALLBACK_DATA .header_value 0]

end headers

section body

/-- The body goes on with as many characters as are left of it and of the buffer. -/
def bodyIdentity (available : Nat) : Round :=
  let to_read := min parser.content_length available
  if parser.content_length ≠ 0 ∧ parser.content_length ≠ ULLONG_MAX then
    let parser := { parser with content_length := parser.content_length - to_read }
    if parser.content_length = 0 then
      -- `s_message_done` is executed with the last character
      let parser := { parser with state := parser.NEW_MESSAGE }
      { actions := [.MARK .body, .CALLBACK_DATA .body to_read, .CALLBACK_NOTIFY .messageComplete]
        ending := if parser.upgrade then .leave parser (to_read - 1) else .next parser (to_read - 1) }
    else
      { actions := [.MARK .body]
        ending := .next parser (to_read - 1) }
  else .failed

def chunkSizeStart : Round :=
  if parser.nread = 1 ∧ parser.flags.F_CHUNKED then
    match unhex ch with
    | some unhex_val => .next { parser with content_length := unhex_val, state := .s_chunk_size }
    | none => .error .HPE_INVALID_CHUNK_SIZE parser
  else .failed

def chunkSize : Round :=
  if parser.flags.F_CHUNKED then
    if ch = CR then .next { parser with state := .s_chunk_size_almost_done }
    else
      match unhex ch with
      | some unhex_val =>
        let t := (parser.content_length * 16 + unhex_val) % 2 ^ 64
        if (ULLONG_MAX - 16) / 16 < parser.content_length then .error .HPE_INVALID_CONTENT_LENGTH parser
        else .next { parser with content_length := t }
      | none =>
        if ch = byte ';' ∨ ch = byte ' ' then .next { parser with state := .s_chunk_parameters }
        else .error .HPE_INVALID_CHUNK_SIZE parser
  else .failed

def chunkParameters : Round :=
  if parser.flags.F_CHUNKED then
    if ch = CR then .next { parser with state := .s_chunk_size_almost_done } else .next parser
  else .failed

def chunkSizeAlmostDone : Round :=
  if parser.flags.F_CHUNKED then
    if ch = LF then
      let parser := { parser with nread := 0 }
      -- the callback is the one of the chunk header
      Round.after [.CALLBACK_NOTIFY .skip]
        (.next
          (if parser.content_length = 0 then
            { parser with flags := { parser.flags with F_TRAILING := true }, state := .s_header_field_start }
          else { parser with state := .s_chunk_data }))
    else .error .HPE_STRICT parser
  else .failed

def chunkData (available : Nat) : Round :=
  let to_read := min parser.content_length available
  if parser.flags.F_CHUNKED ∧ parser.content_length ≠ 0 ∧ parser.content_length ≠ ULLONG_MAX then
    let parser := { parser with content_length := parser.content_length - to_read }
    { actions := [.MARK .body]
      ending :=
        .next (if parser.content_length = 0 then { parser with state := .s_chunk_data_almost_done } else parser)
          (to_read - 1) }
  else .failed

def chunkDataAlmostDone : Round :=
  if parser.flags.F_CHUNKED ∧ parser.content_length = 0 then
    if ch = CR then (Round.next { parser with state := .s_chunk_data_done }).after [.CALLBACK_DATA .body 0]
    else .error .HPE_STRICT parser
  else .failed

def chunkDataDone : Round :=
  if parser.flags.F_CHUNKED then
    if ch = LF then
      (Round.next { parser with nread := 0, state := .s_chunk_size_start }).after [.CALLBACK_NOTIFY .skip]
    else .error .HPE_STRICT parser
  else .failed

end body

/-- The switch over the states, with the character at `p` and those behind it -/
def switch (rest : List UInt8) : Round :=
  match parser.state with
  | .s_dead => if ch = CR ∨ ch = LF then .next parser else .error .HPE_CLOSED_CONNECTION parser
  | .s_start_req => parser.startReq ch
  | .s_req_method => parser.reqMethod ch
  | .s_req_spaces_before_url => parser.reqSpacesBeforeUrl ch
  | .s_req_schema | .s_req_schema_slash | .s_req_schema_slash_slash | .s_req_server_start => parser.reqSchema ch
  | .s_req_server | .s_req_server_with_at | .s_req_path | .s_req_query_string_start | .s_req_query_string
  | .s_req_fragment_start | .s_req_fragment => parser.reqUrl ch
  | .s_req_http_start => parser.reqHttpStart ch
  | .s_req_http_H => parser.constant ch (byte 'T') .s_req_http_HT
  | .s_req_http_HT => parser.constant ch (byte 'T') .s_req_http_HTT
  | .s_req_http_HTT => parser.constant ch (byte 'P') .s_req_http_HTTP
  | .s_req_http_I => parser.constant ch (byte 'C') .s_req_http_IC
  | .s_req_http_IC => parser.constant ch (byte 'E') .s_req_http_HTTP
  | .s_req_http_HTTP => parser.constant ch (byte '/') .s_req_http_major
  | .s_req_http_major => parser.reqHttpMajor ch
  | .s_req_http_dot => parser.reqHttpDot ch
  | .s_req_http_minor => parser.reqHttpMinor ch
  | .s_req_http_end => parser.reqHttpEnd ch
  | .s_req_line_almost_done => parser.reqLineAlmostDone ch
  | .s_header_field_start => parser.headerFieldStart ch
  | .s_header_field => headerFieldLoop 0 parser (ch :: rest)
  | .s_header_value_discard_ws => parser.headerValueDiscardWs ch
  | .s_header_value_discard_ws_almost_done => parser.headerValueDiscardWsAlmostDone ch
  | .s_header_value_discard_lws => parser.headerValueDiscardLws ch
  | .s_header_value_start => parser.headerValueStart ch
  | .s_header_value => headerValueLoop parser.header_state 0 parser (ch :: rest)
  | .s_header_almost_done => parser.headerAlmostDone ch
  | .s_header_value_lws => parser.headerValueLws ch
  | .s_headers_almost_done => parser.headersAlmostDone ch
  | .s_headers_done => parser.headersDone ch
  | .s_body_identity => parser.bodyIdentity (rest.length + 1)
  | .s_message_done => parser.messageDone
  | .s_chunk_size_start => parser.chunkSizeStart ch
  | .s_chunk_size => parser.chunkSize ch
  | .s_chunk_parameters => parser.chunkParameters ch
  | .s_chunk_size_almost_done => parser.chunkSizeAlmostDone ch
  | .s_chunk_data => parser.chunkData (rest.length + 1)
  | .s_chunk_data_almost_done => parser.chunkDataAlmostDone ch
  | .s_chunk_data_done => parser.chunkDataDone ch

/-- A round of the loop over the characters -/
def round (rest : List UInt8) : Round :=
  if parser.state.PARSING_HEADER then parser.COUNT_HEADER_SIZE 1 0 fun parser => parser.switch ch rest
  else parser.switch ch rest

end Parser

/-- What is marked at the beginning of a buffer -/
def State.marked : State → Option Data
  | .s_header_field => some .header_field
  | .s_header_value => some .header_value
  | .s_req_path | .s_req_schema | .s_req_schema_slash | .s_req_schema_slash_slash | .s_req_server_start | .s_req_server
  | .s_req_server_with_at | .s_req_query_string_start | .s_req_query_string | .s_req_fragment_start
  | .s_req_fragment => some .url
  | _ => none

/-- The variables of `http_parser_execute`, with the callbacks so far and the size that is returned -/
structure Execution where
  parser : Parser
  p : Nat := 0
  marks : Data → Option Nat := fun _ => none
  callbacks : List ParserEvent := []
  size : Nat := 0

namespace Execution

/-- There is no result where something outside of the buffer would be read. -/
def act (data : SharedString) (execution : Execution) : Action → Option Execution
  | .MARK FOR =>
    some
      (if execution.marks FOR = none then
        { execution with marks := Function.update execution.marks FOR (some execution.p) }
      else execution)
  | .CALLBACK_DATA FOR stop =>
    match execution.marks FOR with
    | none => some execution
    | some mark =>
      (data.slice? mark (execution.p + stop)).map fun str =>
        { execution with
          callbacks := execution.callbacks ++ [FOR.event str]
          marks := Function.update execution.marks FOR none }
  | .CALLBACK_NOTIFY event => some { execution with callbacks := execution.callbacks ++ [event] }

/-- Run callbacks for any marks that we have leftover after we ran out of bytes. There should be at most one of these
    set. -/
def leftover (data : SharedString) (execution : Execution) : Option Execution :=
  let all : List Data := [.header_field, .header_value, .url, .body]
  if (all.filter fun FOR => (execution.marks FOR).isSome).length ≤ 1 then
    all.foldlM (fun execution FOR => execution.act data (.CALLBACK_DATA FOR 0)) { execution with size := data.length }
  else none

/-- Do what a round comes to. -/
def runRound (data : SharedString) (execution : Execution) (round : Round) : Option (ForInStep Execution) := do
  let execution ← round.actions.foldlM (act data) execution
  match round.ending with
  | .next parser p => return .yield { execution with parser, p := execution.p + p + 1 }
  | .leave parser p => return .done { execution with parser, size := execution.p + p + 1 }
  | .error errno parser p =>
    return .done { execution with parser := { parser with http_errno := some errno }, size := execution.p + p }
  | .failed => none

def round (data : SharedString) (execution : Execution) : Option (ForInStep Execution) :=
  match data.drop execution.p with
  | [] => (execution.leftover data).map .done
  | ch :: rest => execution.runRound data (execution.parser.round ch rest)

end Execution

/-- The variables at the first character of a buffer -/
def Parser.start (parser : Parser) : Execution :=
  { parser, marks := fun FOR => if parser.state.marked = some FOR then some 0 else none }

/-- Execute the parser on a buffer. The callbacks succeed. -/
def http_parser_execute (parser : Parser) (data : SharedString) : Option Execution :=
  if parser.http_errno ≠ none then some { parser }
  else if data = [] then
    match parser.state with
    | .s_dead | .s_start_req => some { parser }
    | _ => some { parser := { parser with http_errno := some .HPE_INVALID_EOF_STATE }, size := 1 }
  else
    Loop.run (Execution.round data) (data.length + 1) parser.start

end cpv.HttpParser
