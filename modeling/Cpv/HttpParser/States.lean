import Cpv.Utility.SharedString

namespace cpv.HttpParser

/-- Request Methods -/
inductive http_method
  | DELETE | GET | HEAD | POST | PUT
  | CONNECT | OPTIONS | TRACE
  | COPY | LOCK | MKCOL | MOVE | PROPFIND | PROPPATCH | SEARCH | UNLOCK | BIND | REBIND | UNBIND | ACL
  | REPORT | MKACTIVITY | CHECKOUT | MERGE
  | MSEARCH | NOTIFY | SUBSCRIBE | UNSUBSCRIBE
  | PATCH | PURGE
  | MKCALENDAR
  | LINK | UNLINK
  | SOURCE
deriving DecidableEq

def http_method.method_string : http_method → SharedString
  | .DELETE => text "DELETE"
  | .GET => text "GET"
  | .HEAD => text "HEAD"
  | .POST => text "POST"
  | .PUT => text "PUT"
  | .CONNECT => text "CONNECT"
  | .OPTIONS => text "OPTIONS"
  | .TRACE => text "TRACE"
  | .COPY => text "COPY"
  | .LOCK => text "LOCK"
  | .MKCOL => text "MKCOL"
  | .MOVE => text "MOVE"
  | .PROPFIND => text "PROPFIND"
  | .PROPPATCH => text "PROPPATCH"
  | .SEARCH => text "SEARCH"
  | .UNLOCK => text "UNLOCK"
  | .BIND => text "BIND"
  | .REBIND => text "REBIND"
  | .UNBIND => text "UNBIND"
  | .ACL => text "ACL"
  | .REPORT => text "REPORT"
  | .MKACTIVITY => text "MKACTIVITY"
  | .CHECKOUT => text "CHECKOUT"
  | .MERGE => text "MERGE"
  | .MSEARCH => text "M-SEARCH"
  | .NOTIFY => text "NOTIFY"
  | .SUBSCRIBE => text "SUBSCRIBE"
  | .UNSUBSCRIBE => text "UNSUBSCRIBE"
  | .PATCH => text "PATCH"
  | .PURGE => text "PURGE"
  | .MKCALENDAR => text "MKCALENDAR"
  | .LINK => text "LINK"
  | .UNLINK => text "UNLINK"
  | .SOURCE => text "SOURCE"

/-- The method that the first character of a request stands for until another character tells it apart -/
def firstMethod (ch : UInt8) : Option http_method :=
  if ch = byte 'A' then some .ACL
  else if ch = byte 'B' then some .BIND
  else if ch = byte 'C' then some .CONNECT
  else if ch = byte 'D' then some .DELETE
  else if ch = byte 'G' then some .GET
  else if ch = byte 'H' then some .HEAD
  else if ch = byte 'L' then some .LOCK
  else if ch = byte 'M' then some .MKCOL
  else if ch = byte 'N' then some .NOTIFY
  else if ch = byte 'O' then some .OPTIONS
  else if ch = byte 'P' then some .POST
  else if ch = byte 'R' then some .REPORT
  else if ch = byte 'S' then some .SUBSCRIBE
  else if ch = byte 'T' then some .TRACE
  else if ch = byte 'U' then some .UNLOCK
  else none

/-- The method that takes the place of another one, with the character at an index that the other one does not have -/
def otherMethods : List ((http_method × Nat × UInt8) × http_method) :=
  [((.POST, 1, byte 'U'), .PUT),
    ((.POST, 1, byte 'A'), .PATCH),
    ((.POST, 1, byte 'R'), .PROPFIND),
    ((.PUT, 2, byte 'R'), .PURGE),
    ((.CONNECT, 1, byte 'H'), .CHECKOUT),
    ((.CONNECT, 2, byte 'P'), .COPY),
    ((.MKCOL, 1, byte 'O'), .MOVE),
    ((.MKCOL, 1, byte 'E'), .MERGE),
    ((.MKCOL, 1, byte '-'), .MSEARCH),
    ((.MKCOL, 2, byte 'A'), .MKACTIVITY),
    ((.MKCOL, 3, byte 'A'), .MKCALENDAR),
    ((.SUBSCRIBE, 1, byte 'E'), .SEARCH),
    ((.SUBSCRIBE, 1, byte 'O'), .SOURCE),
    ((.REPORT, 2, byte 'B'), .REBIND),
    ((.PROPFIND, 4, byte 'P'), .PROPPATCH),
    ((.LOCK, 1, byte 'I'), .LINK),
    ((.UNLOCK, 2, byte 'S'), .UNSUBSCRIBE),
    ((.UNLOCK, 2, byte 'B'), .UNBIND),
    ((.UNLOCK, 3, byte 'I'), .UNLINK)]

/-- The states of a parser of requests -/
inductive State
  | s_dead
  | s_start_req
  | s_req_method
  | s_req_spaces_before_url
  | s_req_schema
  | s_req_schema_slash
  | s_req_schema_slash_slash
  | s_req_server_start
  | s_req_server
  | s_req_server_with_at
  | s_req_path
  | s_req_query_string_start
  | s_req_query_string
  | s_req_fragment_start
  | s_req_fragment
  | s_req_http_start
  | s_req_http_H
  | s_req_http_HT
  | s_req_http_HTT
  | s_req_http_HTTP
  | s_req_http_I
  | s_req_http_IC
  | s_req_http_major
  | s_req_http_dot
  | s_req_http_minor
  | s_req_http_end
  | s_req_line_almost_done
  | s_header_field_start
  | s_header_field
  | s_header_value_discard_ws
  | s_header_value_discard_ws_almost_done
  | s_header_value_discard_lws
  | s_header_value_start
  | s_header_value
  | s_header_value_lws
  | s_header_almost_done
  | s_chunk_size_start
  | s_chunk_size
  | s_chunk_parameters
  | s_chunk_size_almost_done
  | s_headers_almost_done
  | s_headers_done
  | s_chunk_data
  | s_chunk_data_almost_done
  | s_chunk_data_done
  | s_body_identity
  | s_message_done
deriving DecidableEq

/-- All states beyond `s_headers_done` are 'body' states. -/
def State.PARSING_HEADER : State → Bool
  | .s_chunk_data | .s_chunk_data_almost_done | .s_chunk_data_done | .s_body_identity | .s_message_done => false
  | _ => true

inductive HeaderState
  | h_general
  | h_C
  | h_CO
  | h_CON
  | h_matching_connection
  | h_matching_proxy_connection
  | h_matching_content_length
  | h_matching_transfer_encoding
  | h_matching_upgrade
  | h_connection
  | h_content_length
  | h_content_length_num
  | h_content_length_ws
  | h_transfer_encoding
  | h_upgrade
  | h_matching_transfer_encoding_chunked
  | h_matching_connection_token_start
  | h_matching_connection_keep_alive
  | h_matching_connection_close
  | h_matching_connection_upgrade
  | h_matching_connection_token
  | h_transfer_encoding_chunked
  | h_connection_keep_alive
  | h_connection_close
  | h_connection_upgrade
deriving DecidableEq

/-- The errors of a parser of requests itself -/
inductive http_errno
  | HPE_INVALID_EOF_STATE
  | HPE_HEADER_OVERFLOW
  | HPE_CLOSED_CONNECTION
  | HPE_INVALID_VERSION
  | HPE_INVALID_METHOD
  | HPE_INVALID_URL
  | HPE_LF_EXPECTED
  | HPE_INVALID_HEADER_TOKEN
  | HPE_INVALID_CONTENT_LENGTH
  | HPE_UNEXPECTED_CONTENT_LENGTH
  | HPE_INVALID_CHUNK_SIZE
  | HPE_INVALID_CONSTANT
  | HPE_STRICT
deriving DecidableEq

section characters

def CR : UInt8 := 13

def LF : UInt8 := 10

def LOWER (c : UInt8) : UInt8 := c ||| 0x20

def IS_ALPHA (c : UInt8) : Bool := byte 'a' ≤ LOWER c && LOWER c ≤ byte 'z'

def IS_NUM (c : UInt8) : Bool := byte '0' ≤ c && c ≤ byte '9'

def IS_ALPHANUM (c : UInt8) : Bool := IS_ALPHA c || IS_NUM c

def IS_MARK (c : UInt8) : Bool := (text "-_.!~*'()").contains c

def IS_USERINFO_CHAR (c : UInt8) : Bool := IS_ALPHANUM c || IS_MARK c || (text "%;:&=+$,").contains c

/-- Tokens as defined by rfc 2616. Also lowercases them. -/
def tokens (c : UInt8) : UInt8 :=
  if byte 'A' ≤ c ∧ c ≤ byte 'Z' then LOWER c
  else if byte 'a' ≤ c ∧ c ≤ byte 'z' ∨ IS_NUM c ∨ (text " !#$%&'*+-.^_`|~").contains c then c
  else 0

def STRICT_TOKEN (c : UInt8) : UInt8 := if c = byte ' ' then 0 else tokens c

def TOKEN (c : UInt8) : UInt8 := STRICT_TOKEN c

/-- The bits of `normal_url_char` in strict mode -/
def IS_URL_CHAR (c : UInt8) : Bool := 0x21 ≤ c && c ≤ 0x7E && c != byte '#' && c != byte '?'

/-- Verify that a char is a valid visible (printable) US-ASCII character or %x80-FF -/
def IS_HEADER_CHAR (ch : UInt8) : Bool := ch == CR || ch == LF || ch == 9 || (31 < ch && ch != 127)

/-- The value of a hexadecimal digit, and nothing for -1 -/
def unhex (c : UInt8) : Option Nat :=
  if IS_NUM c then some (c - byte '0').toNat
  else if byte 'a' ≤ LOWER c ∧ LOWER c ≤ byte 'f' then some ((LOWER c - byte 'a').toNat + 10)
  else none

end characters

/-- The state of the url behind a non-space character -/
def parse_url_char (s : State) (ch : UInt8) : State :=
  if ch = byte ' ' ∨ ch = CR ∨ ch = LF then .s_dead
  else if ch = byte '\t' ∨ ch = 12 then .s_dead
  else
    match s with
    | .s_req_spaces_before_url =>
      -- all methods except CONNECT are followed by '/' or '*', proxied requests by the scheme of an absolute uri
      if ch = byte '/' ∨ ch = byte '*' then .s_req_path else if IS_ALPHA ch then .s_req_schema else .s_dead
    | .s_req_schema => if IS_ALPHA ch then s else if ch = byte ':' then .s_req_schema_slash else .s_dead
    | .s_req_schema_slash => if ch = byte '/' then .s_req_schema_slash_slash else .s_dead
    | .s_req_schema_slash_slash => if ch = byte '/' then .s_req_server_start else .s_dead
    | .s_req_server_with_at | .s_req_server_start | .s_req_server =>
      if s = .s_req_server_with_at ∧ ch = byte '@' then .s_dead
      else if ch = byte '/' then .s_req_path
      else if ch = byte '?' then .s_req_query_string_start
      else if ch = byte '@' then .s_req_server_with_at
      else if IS_USERINFO_CHAR ch ∨ ch = byte '[' ∨ ch = byte ']' then .s_req_server
      else .s_dead
    | .s_req_path =>
      if IS_URL_CHAR ch then s
      else if ch = byte '?' then .s_req_query_string_start
      else if ch = byte '#' then .s_req_fragment_start
      else .s_dead
    | .s_req_query_string_start | .s_req_query_string =>
      -- allow extra '?' in query string
      if IS_URL_CHAR ch ∨ ch = byte '?' then .s_req_query_string
      else if ch = byte '#' then .s_req_fragment_start
      else .s_dead
    | .s_req_fragment_start =>
      if IS_URL_CHAR ch ∨ ch = byte '?' then .s_req_fragment else if ch = byte '#' then s else .s_dead
    | .s_req_fragment => if IS_URL_CHAR ch ∨ ch = byte '?' ∨ ch = byte '#' then s else .s_dead
    | _ => .s_dead

end cpv.HttpParser
