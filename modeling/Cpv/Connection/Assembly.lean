import Cpv.Connection.CallbackOrder
import Cpv.Utility.SharedStringBuilder

namespace cpv

/-- The part of the connection that the parser callbacks work on, with the builders of the texts that may come in
    pieces. They take the place of the texts of the receive loop's data. -/
structure AssemblingSide where
  state : Http11ServerConnectionState := .Initial
  newRequest : HttpRequest := {}
  url : SharedStringBuilder := {}
  headerField : SharedStringBuilder := {}
  headerValue : SharedStringBuilder := {}
  receiveLoopData : ReceiveLoopData := {}

namespace AssemblingSide

/-- Store last header field and value. -/
def storeHeader (side : AssemblingSide) : AssemblingSide :=
  let (field, headerField) := side.headerField.build
  let (value, headerValue) := side.headerValue.build
  { side with
    newRequest := { side.newRequest with headers := side.newRequest.headers.setHeader field value }
    headerField, headerValue }

def on_message_begin (side : AssemblingSide) : Option AssemblingSide :=
  match side.state with
  | .Started => some { side with state := .ReceiveRequestMessageBegin }
  | _ => none

def on_url (side : AssemblingSide) (data : SharedString) : Option AssemblingSide :=
  match side.state with
  | .ReceiveRequestMessageBegin => some { side with state := .ReceiveRequestUrl, url := .ofShared data }
  | .ReceiveRequestUrl => some { side with url := side.url.append data }
  | _ => none

def on_header_field (side : AssemblingSide) (data : SharedString) : Option AssemblingSide :=
  match side.state with
  | .ReceiveRequestHeaderValue =>
    some { side.storeHeader with state := .ReceiveRequestHeaderField, headerField := .ofShared data }
  | .ReceiveRequestUrl => some { side with state := .ReceiveRequestHeaderField, headerField := .ofShared data }
  | .ReceiveRequestHeaderField => some { side with headerField := side.headerField.append data }
  | _ => none

def on_header_value (side : AssemblingSide) (data : SharedString) : Option AssemblingSide :=
  match side.state with
  | .ReceiveRequestHeaderField => some { side with state := .ReceiveRequestHeaderValue, headerValue := .ofShared data }
  | .ReceiveRequestHeaderValue => some { side with headerValue := side.headerValue.append data }
  | _ => none

/-- Store method, url and version. -/
def storeRequestLine (side : AssemblingSide) (method : SharedString) (http_major http_minor : Nat) : AssemblingSide :=
  let (str, url) := side.url.build
  { side with
    state := .ReceiveRequestHeadersComplete
    newRequest := { side.newRequest with method, url := str, version := getHttpVersionString http_major http_minor }
    url }

def on_headers_complete (side : AssemblingSide) (method : SharedString) (http_major http_minor : Nat) :
    Option AssemblingSide :=
  match side.state with
  | .ReceiveRequestHeaderValue => some (side.storeHeader.storeRequestLine method http_major http_minor)
  | .ReceiveRequestUrl => some (side.storeRequestLine method http_major http_minor)
  | _ => none

/-- The texts of the builders. -/
def view (side : AssemblingSide) : ReceiveSide where
  state := side.state
  newRequest := side.newRequest
  receiveLoopData := { side.receiveLoopData with
    url := side.url.view, headerField := side.headerField.view, headerValue := side.headerValue.view }

def on_body (side : AssemblingSide) (data : SharedString) : Option AssemblingSide :=
  match side.state with
  | .ReceiveRequestHeadersComplete | .ReceiveRequestBody =>
    some { side with
      state := .ReceiveRequestBody
      receiveLoopData := { side.receiveLoopData with bodyBuffers := side.receiveLoopData.bodyBuffers ++ [data] } }
  | _ => none

def on_message_complete (side : AssemblingSide) : Option AssemblingSide :=
  match side.state with
  | .ReceiveRequestHeadersComplete | .ReceiveRequestBody =>
    let bodyBuffers := if side.receiveLoopData.requestEnqueued ∧ side.receiveLoopData.bodyBuffers = [] then
      [[]] else side.receiveLoopData.bodyBuffers
    some { side with
      state := .ReceiveRequestMessageComplete
      receiveLoopData := { side.receiveLoopData with bodyBuffers } }
  | _ => none

/-- Run the callback of an event, `none` where it returns an error. -/
def callback (side : AssemblingSide) : ParserEvent → Option AssemblingSide
  | .skip => some side
  | .messageBegin => side.on_message_begin
  | .url data => side.on_url data
  | .headerField data => side.on_header_field data
  | .headerValue data => side.on_header_value data
  | .headersComplete method http_major http_minor => side.on_headers_complete method http_major http_minor
  | .body data => side.on_body data
  | .messageComplete => side.on_message_complete
  | .error => none

def callAll (side : AssemblingSide) (events : List ParserEvent) : Option AssemblingSide :=
  events.foldlM callback side

structure WellFormed (side : AssemblingSide) : Prop where
  url : side.url.WellFormed
  headerField : side.headerField.WellFormed
  headerValue : side.headerValue.WellFormed

theorem wellFormed_build {builder : SharedStringBuilder} (hbuilder : builder.WellFormed) :
    builder.build.2.WellFormed := ⟨by simp [SharedStringBuilder.build], by simp [SharedStringBuilder.build], hbuilder.3⟩

theorem WellFormed.storeHeader {side : AssemblingSide} (hside : side.WellFormed) : side.storeHeader.WellFormed :=
  ⟨hside.url, wellFormed_build hside.headerField, wellFormed_build hside.headerValue⟩

/-- A callback does with the builders what it does with their texts. -/
theorem callback_view {side : AssemblingSide} (hside : side.WellFormed) (event : ParserEvent) :
    (side.callback event).map view = side.view.callback event ∧
      ∀ next ∈ side.callback event, next.WellFormed := by
  have hstored := hside.storeHeader
  obtain ⟨hurl, hfield, hvalue⟩ := hside
  obtain ⟨state, newRequest, url, headerField, headerValue, receiveLoopData⟩ := side
  cases event with
  | skip => exact ⟨rfl, by rintro next ⟨⟩; exact ⟨hurl, hfield, hvalue⟩⟩
  | messageBegin =>
    cases state <;> refine ⟨rfl, ?_⟩ <;> rintro next ⟨⟩
    exact ⟨hurl, hfield, hvalue⟩
  | url data =>
    obtain ⟨hmore, hview⟩ := hurl.append data
    have hnew := SharedStringBuilder.wellFormed_ofShared data
    cases state
    case ReceiveRequestMessageBegin =>
      refine ⟨?_, by rintro next ⟨⟩; exact ⟨hnew, hfield, hvalue⟩⟩
      simp [callback, on_url, view, ReceiveSide.callback, ReceiveSide.on_url]
    case ReceiveRequestUrl =>
      refine ⟨?_, by rintro next ⟨⟩; exact ⟨hmore, hfield, hvalue⟩⟩
      simp [callback, on_url, view, ReceiveSide.callback, ReceiveSide.on_url, hview]
    all_goals exact ⟨rfl, by rintro next ⟨⟩⟩
  | headerField data =>
    obtain ⟨hmore, hview⟩ := hfield.append data
    have hnew := SharedStringBuilder.wellFormed_ofShared data
    cases state
    case ReceiveRequestHeaderValue =>
      refine ⟨?_, by rintro next ⟨⟩; exact ⟨hurl, hnew, hstored.headerValue⟩⟩
      simp [callback, on_header_field, view, ReceiveSide.callback, ReceiveSide.on_header_field, storeHeader,
        ReceiveSide.storeHeader, SharedStringBuilder.build]
      rfl
    case ReceiveRequestUrl =>
      refine ⟨?_, by rintro next ⟨⟩; exact ⟨hurl, hnew, hvalue⟩⟩
      simp [callback, on_header_field, view, ReceiveSide.callback, ReceiveSide.on_header_field]
    case ReceiveRequestHeaderField =>
      refine ⟨?_, by rintro next ⟨⟩; exact ⟨hurl, hmore, hvalue⟩⟩
      simp [callback, on_header_field, view, ReceiveSide.callback, ReceiveSide.on_header_field, hview]
    all_goals exact ⟨rfl, by rintro next ⟨⟩⟩
  | headerValue data =>
    obtain ⟨hmore, hview⟩ := hvalue.append data
    have hnew := SharedStringBuilder.wellFormed_ofShared data
    cases state
    case ReceiveRequestHeaderField =>
      refine ⟨?_, by rintro next ⟨⟩; exact ⟨hurl, hfield, hnew⟩⟩
      simp [callback, on_header_value, view, ReceiveSide.callback, ReceiveSide.on_header_value]
    case ReceiveRequestHeaderValue =>
      refine ⟨?_, by rintro next ⟨⟩; exact ⟨hurl, hfield, hmore⟩⟩
      simp [callback, on_header_value, view, ReceiveSide.callback, ReceiveSide.on_header_value, hview]
    all_goals exact ⟨rfl, by rintro next ⟨⟩⟩
  | headersComplete method http_major http_minor =>
    cases state
    case ReceiveRequestHeaderValue =>
      exact ⟨rfl, by rintro next ⟨⟩; exact ⟨wellFormed_build hurl, hstored.headerField, hstored.headerValue⟩⟩
    case ReceiveRequestUrl =>
      exact ⟨rfl, by rintro next ⟨⟩; exact ⟨wellFormed_build hurl, hfield, hvalue⟩⟩
    all_goals exact ⟨rfl, by rintro next ⟨⟩⟩
  | body data =>
    cases state <;> refine ⟨rfl, ?_⟩ <;> rintro next ⟨⟩ <;> exact ⟨hurl, hfield, hvalue⟩
  | messageComplete =>
    cases state <;> refine ⟨rfl, ?_⟩ <;> rintro next ⟨⟩ <;> exact ⟨hurl, hfield, hvalue⟩
  | error => exact ⟨rfl, by rintro next ⟨⟩⟩

theorem callAll_view {side : AssemblingSide} (hside : side.WellFormed) (events : List ParserEvent) :
    (side.callAll events).map view = side.view.callAll events ∧ ∀ next ∈ side.callAll events, next.WellFormed := by
  induction events generalizing side with
  | nil => exact ⟨rfl, by rintro next ⟨⟩; exact hside⟩
  | cons event events ih =>
    obtain ⟨hview, hnext⟩ := callback_view hside event
    rw [callAll, ReceiveSide.callAll, List.foldlM_cons, List.foldlM_cons, ← hview]
    cases hcall : side.callback event with
    | none => exact ⟨rfl, by rintro next ⟨⟩⟩
    | some next => exact ih (hnext next hcall)

end AssemblingSide

namespace ReceiveSide

/-- Pieces of one text are put together by callbacks that append. -/
theorem callAll_pieces {event : SharedString → ParserEvent} (put : ReceiveSide → SharedString → ReceiveSide)
    {state : Http11ServerConnectionState}
    (hstep : ∀ side data, side.state = state →
      side.callback (event data) = some (put side data) ∧ (put side data).state = state)
    (hnil : ∀ side, put side [] = side) (happend : ∀ side data more, put (put side data) more = put side (data ++ more))
    {side : ReceiveSide} (hstate : side.state = state) (pieces : List SharedString) :
    side.callAll (pieces.map event) = some (put side pieces.flatten) := by
  induction pieces generalizing side with
  | nil =>
    rw [List.flatten_nil, hnil]
    rfl
  | cons data pieces ih =>
    obtain ⟨hcall, hnext⟩ := hstep side data hstate
    rw [List.map_cons, callAll, List.foldlM_cons, hcall, List.flatten_cons, ← happend]
    exact ih hnext

theorem callAll_append (side : ReceiveSide) (events more : List ParserEvent) :
    side.callAll (events ++ more) = (side.callAll events).bind fun next => next.callAll more :=
  List.foldlM_append

theorem callAll_cons {side next : ReceiveSide} {event : ParserEvent} (hcall : side.callback event = some next)
    (events : List ParserEvent) : side.callAll (event :: events) = next.callAll events := by
  rw [callAll, List.foldlM_cons, hcall]
  rfl

/-- The headers that are stored or still wait to be. -/
def storedHeaders (side : ReceiveSide) : HttpRequestHeaders :=
  if side.state = .ReceiveRequestHeaderValue then side.storeHeader.newRequest.headers else side.newRequest.headers

/-- The state in which a header can begin. -/
def BetweenHeaders (side : ReceiveSide) : Prop :=
  side.state = .ReceiveRequestUrl ∨ side.state = .ReceiveRequestHeaderValue

/-- The first piece of a field stores the header before it. -/
theorem callback_headerField {side : ReceiveSide} (hbetween : side.BetweenHeaders) (data : SharedString) :
    ∃ next, side.callback (.headerField data) = some next ∧ next.state = .ReceiveRequestHeaderField ∧
      next.newRequest.headers = side.storedHeaders ∧ next.receiveLoopData.headerField = data ∧
      next.receiveLoopData.url = side.receiveLoopData.url := by
  rcases hbetween with hstate | hstate
  · refine ⟨{ side with
      state := .ReceiveRequestHeaderField
      receiveLoopData := { side.receiveLoopData with headerField := data } },
      by simp [callback, on_header_field, hstate], rfl, ?_, rfl, rfl⟩
    rw [storedHeaders, if_neg (by simp [hstate])]
  · refine ⟨{ side.storeHeader with
      state := .ReceiveRequestHeaderField
      receiveLoopData := { side.storeHeader.receiveLoopData with headerField := data } },
      by simp [callback, on_header_field, hstate], rfl, ?_, rfl, rfl⟩
    rw [storedHeaders, if_pos hstate]

theorem callAll_urls {side : ReceiveSide} (hstate : side.state = .ReceiveRequestUrl) (pieces : List SharedString) :
    side.callAll (pieces.map .url) = some { side with receiveLoopData := { side.receiveLoopData with
      url := side.receiveLoopData.url ++ pieces.flatten } } := by
  refine callAll_pieces (fun side data => { side with receiveLoopData := { side.receiveLoopData with
    url := side.receiveLoopData.url ++ data } }) ?_ ?_ ?_ hstate pieces
  · intro side data hstate
    exact ⟨by simp [callback, on_url, hstate], hstate⟩
  · simp
  · simp

theorem callAll_fields {side : ReceiveSide} (hstate : side.state = .ReceiveRequestHeaderField)
    (pieces : List SharedString) :
    side.callAll (pieces.map .headerField) = some { side with receiveLoopData := { side.receiveLoopData with
      headerField := side.receiveLoopData.headerField ++ pieces.flatten } } := by
  refine callAll_pieces (fun side data => { side with receiveLoopData := { side.receiveLoopData with
    headerField := side.receiveLoopData.headerField ++ data } }) ?_ ?_ ?_ hstate pieces
  · intro side data hstate
    exact ⟨by simp [callback, on_header_field, hstate], hstate⟩
  · simp
  · simp

theorem callAll_values {side : ReceiveSide} (hstate : side.state = .ReceiveRequestHeaderValue)
    (pieces : List SharedString) :
    side.callAll (pieces.map .headerValue) = some { side with receiveLoopData := { side.receiveLoopData with
      headerValue := side.receiveLoopData.headerValue ++ pieces.flatten } } := by
  refine callAll_pieces (fun side data => { side with receiveLoopData := { side.receiveLoopData with
    headerValue := side.receiveLoopData.headerValue ++ data } }) ?_ ?_ ?_ hstate pieces
  · intro side data hstate
    exact ⟨by simp [callback, on_header_value, hstate], hstate⟩
  · simp
  · simp

/-- A header in pieces is waiting to be stored with all of them. -/
theorem callAll_header {side : ReceiveSide} (hbetween : side.BetweenHeaders) {field value : List SharedString}
    (hfield : field ≠ []) (hvalue : value ≠ []) :
    ∃ next, side.callAll (field.map .headerField ++ value.map .headerValue) = some next ∧ next.BetweenHeaders ∧
      next.storedHeaders = side.storedHeaders.setHeader field.flatten value.flatten ∧
      next.receiveLoopData.url = side.receiveLoopData.url := by
  obtain ⟨first, fields, rfl⟩ := List.exists_cons_of_ne_nil hfield
  obtain ⟨data, values, rfl⟩ := List.exists_cons_of_ne_nil hvalue
  obtain ⟨begun, hbegin, hstate, hheaders, hname, hurl⟩ := callback_headerField hbetween first
  have hvalueState : ∀ side : ReceiveSide, side.state = .ReceiveRequestHeaderField →
      side.callback (.headerValue data) = some { side with
        state := .ReceiveRequestHeaderValue
        receiveLoopData := { side.receiveLoopData with headerValue := data } } := by
    intro side hstate
    simp [callback, on_header_value, hstate]
  rw [List.map_cons, List.map_cons, List.cons_append, callAll_cons hbegin, callAll_append,
    callAll_fields hstate, Option.bind_some, callAll_cons (hvalueState _ (by exact hstate)), callAll_values rfl]
  refine ⟨_, rfl, .inr rfl, ?_, hurl⟩
  simp only [storedHeaders, if_true, storeHeader, List.flatten_cons, hname, hheaders]

theorem callAll_headers {side : ReceiveSide} (hbetween : side.BetweenHeaders)
    {headers : List (List SharedString × List SharedString)}
    (hheaders : ∀ header ∈ headers, header.1 ≠ [] ∧ header.2 ≠ []) :
    ∃ next, side.callAll (headers.flatMap fun header => header.1.map .headerField ++ header.2.map .headerValue) =
        some next ∧ next.BetweenHeaders ∧
      next.storedHeaders =
        headers.foldl (fun stored header => stored.setHeader header.1.flatten header.2.flatten) side.storedHeaders ∧
      next.receiveLoopData.url = side.receiveLoopData.url := by
  induction headers generalizing side with
  | nil => exact ⟨side, rfl, hbetween, rfl, rfl⟩
  | cons header headers ih =>
    obtain ⟨⟨hfield, hvalue⟩, hrest⟩ := List.forall_mem_cons.mp hheaders
    obtain ⟨stored, hcall, hstored, hset, hurl⟩ := callAll_header hbetween hfield hvalue
    obtain ⟨next, hcalls, hnext, hall, hsame⟩ := ih hstored hrest
    refine ⟨next, ?_, hnext, ?_, hsame.trans hurl⟩
    · rw [List.flatMap_cons, callAll_append, hcall]
      exact hcalls
    · rw [hall, hset]
      rfl

/-- The end of the headers stores the last one, and the request line. -/
theorem callback_headersComplete {side : ReceiveSide} (hbetween : side.BetweenHeaders) (method : SharedString)
    (http_major http_minor : Nat) :
    ∃ next, side.callback (.headersComplete method http_major http_minor) = some next ∧
      next.newRequest =
        { method, url := side.receiveLoopData.url, version := getHttpVersionString http_major http_minor
          headers := side.storedHeaders } := by
  rcases hbetween with hstate | hstate
  · refine ⟨side.storeRequestLine method http_major http_minor, by simp [callback, on_headers_complete, hstate], ?_⟩
    rw [storedHeaders, if_neg (by simp [hstate])]
    rfl
  · refine ⟨side.storeHeader.storeRequestLine method http_major http_minor,
      by simp [callback, on_headers_complete, hstate], ?_⟩
    rw [storedHeaders, if_pos hstate]
    rfl

end ReceiveSide

/-- A request head as http_parser reports it: every text in pieces, of which there is one at least. -/
structure HeadPieces where
  method : SharedString
  http_major : Nat
  http_minor : Nat
  url : List SharedString
  headers : List (List SharedString × List SharedString)
  url_ne_nil : url ≠ []
  headers_ne_nil : ∀ header ∈ headers, header.1 ≠ [] ∧ header.2 ≠ []

namespace HeadPieces

/-- The callbacks of a request head. -/
def events (head : HeadPieces) : List ParserEvent :=
  .messageBegin :: (head.url.map .url ++
    ((head.headers.flatMap fun header => header.1.map .headerField ++ header.2.map .headerValue) ++
      [.headersComplete head.method head.http_major head.http_minor]))

/-- The same head with every text in one piece. -/
def whole (head : HeadPieces) : HeadPieces where
  method := head.method
  http_major := head.http_major
  http_minor := head.http_minor
  url := [head.url.flatten]
  headers := head.headers.map fun header => ([header.1.flatten], [header.2.flatten])
  url_ne_nil := List.cons_ne_nil _ _
  headers_ne_nil := by
    intro header hmem
    obtain ⟨pieces, -, rfl⟩ := List.mem_map.mp hmem
    exact ⟨List.cons_ne_nil _ _, List.cons_ne_nil _ _⟩

/-- The request of a head. -/
def request (head : HeadPieces) : HttpRequest where
  method := head.method
  url := head.url.flatten
  version := getHttpVersionString head.http_major head.http_minor
  headers := head.headers.foldl (fun stored header => stored.setHeader header.1.flatten header.2.flatten) {}

theorem request_whole (head : HeadPieces) : head.whole.request = head.request := by
  simp [request, whole, List.foldl_map]

/-- The callbacks put the texts of a head together. -/
theorem callAll_events (head : HeadPieces) :
    ∃ final, ({ state := .Started } : ReceiveSide).callAll head.events = some final ∧
      final.newRequest = head.request := by
  obtain ⟨data, urls, hurls⟩ := List.exists_cons_of_ne_nil head.url_ne_nil
  have hbegin : ({ state := .Started } : ReceiveSide).callback .messageBegin =
      some { state := .ReceiveRequestMessageBegin } := rfl
  have hfirst : ({ state := .ReceiveRequestMessageBegin } : ReceiveSide).callback (.url data) =
      some { state := .ReceiveRequestUrl, receiveLoopData := { url := data } } := rfl
  have hrequestLine : ({ state := .ReceiveRequestUrl
                         receiveLoopData := { url := data ++ urls.flatten } } : ReceiveSide).BetweenHeaders := .inl rfl
  obtain ⟨stored, hheaders, hbetween, hset, hurl⟩ := ReceiveSide.callAll_headers hrequestLine head.headers_ne_nil
  obtain ⟨final, hcomplete, hrequest⟩ :=
    ReceiveSide.callback_headersComplete hbetween head.method head.http_major head.http_minor
  refine ⟨final, ?_, ?_⟩
  · rw [events, ReceiveSide.callAll_cons hbegin, hurls, List.map_cons, List.cons_append,
      ReceiveSide.callAll_cons hfirst, ReceiveSide.callAll_append, ReceiveSide.callAll_urls rfl, Option.bind_some,
      ReceiveSide.callAll_append, hheaders, Option.bind_some, ReceiveSide.callAll_cons hcomplete]
    rfl
  · rw [hrequest, hset, hurl, request, hurls]
    rfl

/-- The request of a head does not depend on the pieces its texts come in. -/
theorem newRequest_eq_whole (head : HeadPieces) :
    ∃ final whole, ({ state := .Started } : AssemblingSide).callAll head.events = some final ∧
      ({ state := .Started } : AssemblingSide).callAll head.whole.events = some whole ∧
      final.newRequest = whole.newRequest := by
  have hstart : ({ state := .Started } : AssemblingSide).WellFormed :=
    ⟨SharedStringBuilder.wellFormed_empty, SharedStringBuilder.wellFormed_empty, SharedStringBuilder.wellFormed_empty⟩
  have hassembled : ∀ head : HeadPieces, ∃ final,
      ({ state := .Started } : AssemblingSide).callAll head.events = some final ∧ final.newRequest = head.request := by
    intro head
    obtain ⟨side, hside, hrequest⟩ := head.callAll_events
    have hview := (AssemblingSide.callAll_view hstart head.events).1.trans hside
    obtain ⟨final, hfinal, rfl⟩ := Option.map_eq_some_iff.mp hview
    exact ⟨final, hfinal, hrequest⟩
  obtain ⟨final, hfinal, hrequest⟩ := hassembled head
  obtain ⟨whole, hwhole, hsame⟩ := hassembled head.whole
  exact ⟨final, whole, hfinal, hwhole, hrequest.trans (head.request_whole.symm.trans hsame.symm)⟩

end HeadPieces

end cpv
