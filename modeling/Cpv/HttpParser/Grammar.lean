import Cpv.Connection.Stream
import Cpv.HttpParser.Segments

namespace cpv

theorem StreamEvents.append {first second : List WireRequest} {events later : List ParserEvent}
    (hfirst : StreamEvents first events) (hsecond : StreamEvents second later) :
    StreamEvents (first ++ second) (events ++ later) := by
  induction hfirst with
  | nil => exact hsecond
  | cons head tail ih =>
    rw [List.append_assoc]
    exact .cons head ih

namespace HttpParser

/-- What has been heard of the message that is being received -/
inductive Received
  | idle
  | begun
  | url (url : SharedString)
  | field (url : SharedString) (headers : List (SharedString × SharedString)) (name : SharedString)
  | value (url : SharedString) (headers : List (SharedString × SharedString)) (name value : SharedString)
  | body (wire : WireRequest)
  | trailers (wire : WireRequest)

/-- The requests that were heard whole, and the one that is being received -/
structure Heard where
  requests : List WireRequest := []
  current : Received := .idle

/-- Listen to a callback. There is no result where it does not come in the order of a message. -/
def Heard.next (heard : Heard) : ParserEvent → Option Heard
  | .skip => some heard
  | .messageBegin =>
    match heard.current with
    | .idle => some { heard with current := .begun }
    | _ => none
  | .url data =>
    match heard.current with
    | .begun => some { heard with current := .url data }
    | .url url => some { heard with current := .url (url ++ data) }
    | _ => none
  | .headerField data =>
    match heard.current with
    | .url url => some { heard with current := .field url [] data }
    | .field url headers name => some { heard with current := .field url headers (name ++ data) }
    | .value url headers name value => some { heard with current := .field url (headers ++ [(name, value)]) data }
    | .body wire | .trailers wire => some { heard with current := .trailers wire }
    | _ => none
  | .headerValue data =>
    match heard.current with
    | .field url headers name => some { heard with current := .value url headers name data }
    | .value url headers name value => some { heard with current := .value url headers name (value ++ data) }
    | .trailers wire => some { heard with current := .trailers wire }
    | _ => none
  | .headersComplete method http_major http_minor =>
    match heard.current with
    | .url url => some { heard with current := .body { method, http_major, http_minor, url, headers := [], body := [] } }
    | .value url headers name value =>
      some
        { heard with
          current := .body { method, http_major, http_minor, url, headers := headers ++ [(name, value)], body := [] } }
    | _ => none
  | .body data =>
    match heard.current with
    | .body wire => some { heard with current := .body { wire with body := wire.body ++ data } }
    | _ => none
  | .messageComplete =>
    match heard.current with
    | .body wire | .trailers wire => some { requests := heard.requests ++ [wire], current := .idle }
    | _ => none
  | .error => none

/-- The callbacks that make a difference to a connection -/
def shown (events : List ParserEvent) : List ParserEvent :=
  events.filter fun event => match event with
    | .skip => false
    | _ => true

/-- Callbacks of a message lead to what was received of it: what remains of a message from there on completes them. -/
def Leads (events : List ParserEvent) : Received → Prop
  | .idle => False
  | .begun => events = []
  | .url url => ∀ (wire : WireRequest) (rest : SharedString) (later : List ParserEvent), wire.url = url ++ rest →
      Remaining wire (.url rest) later → Remaining wire .begun (events ++ later)
  | .field url headers name => ∀ (wire : WireRequest) (rest value : SharedString)
      (more : List (SharedString × SharedString)) (later : List ParserEvent), wire.url = url →
      wire.headers = headers ++ (name ++ rest, value) :: more → Remaining wire (.field rest value more) later →
      Remaining wire .begun (events ++ later)
  | .value url headers name value => ∀ (wire : WireRequest) (rest : SharedString)
      (more : List (SharedString × SharedString)) (later : List ParserEvent), wire.url = url →
      wire.headers = headers ++ (name, value ++ rest) :: more → Remaining wire (.value rest more) later →
      Remaining wire .begun (events ++ later)
  | .body wire => ∀ (rest : SharedString) (later : List ParserEvent),
      Remaining { wire with body := wire.body ++ rest } (.body rest) later →
      Remaining { wire with body := wire.body ++ rest } .begun (events ++ later)
  | .trailers wire => ∀ trailers : List ParserEvent, (∀ event ∈ trailers, event.isHeader) →
      Remaining wire .begun (events ++ (trailers ++ [ParserEvent.messageComplete]))

section leads

variable {events : List ParserEvent} {url : SharedString} {headers : List (SharedString × SharedString)}
  {name value data : SharedString} {wire : WireRequest}

theorem leads_begun_url : Leads [.url data] (.url data) :=
  fun _ _ _ hurl htail => .begun hurl htail

theorem Leads.url_url (hleads : Leads events (.url url)) : Leads (events ++ [.url data]) (.url (url ++ data)) := by
  intro wire rest later hurl htail
  rw [List.append_assoc]
  exact hleads wire (data ++ rest) _ (by rw [hurl, List.append_assoc]) (.url htail)

theorem Leads.url_field (hleads : Leads events (.url url)) : Leads (events ++ [.headerField data]) (.field url [] data) := by
  intro wire rest value more later hurl hheaders htail
  rw [List.append_assoc]
  refine hleads wire [] _ (by rw [hurl, List.append_nil]) (.urlEnd ?_)
  rw [hheaders]
  exact .header htail

theorem Leads.field_field (hleads : Leads events (.field url headers name)) :
    Leads (events ++ [.headerField data]) (.field url headers (name ++ data)) := by
  intro wire rest value more later hurl hheaders htail
  rw [List.append_assoc]
  exact hleads wire (data ++ rest) value more _ hurl (by rw [hheaders, List.append_assoc]) (.field htail)

theorem Leads.field_value (hleads : Leads events (.field url headers name)) :
    Leads (events ++ [.headerValue data]) (.value url headers name data) := by
  intro wire rest more later hurl hheaders htail
  rw [List.append_assoc]
  exact hleads wire [] (data ++ rest) more _ hurl (by rw [hheaders, List.append_nil]) (.fieldEnd htail)

theorem Leads.value_value (hleads : Leads events (.value url headers name value)) :
    Leads (events ++ [.headerValue data]) (.value url headers name (value ++ data)) := by
  intro wire rest more later hurl hheaders htail
  rw [List.append_assoc]
  exact hleads wire (data ++ rest) more _ hurl (by rw [hheaders, List.append_assoc]) (.value htail)

theorem Leads.value_field (hleads : Leads events (.value url headers name value)) :
    Leads (events ++ [.headerField data]) (.field url (headers ++ [(name, value)]) data) := by
  intro wire rest next more later hurl hheaders htail
  rw [List.append_assoc]
  exact hleads wire [] _ _ hurl (by rw [hheaders]; simp) (.valueEnd (.header htail))

theorem Leads.url_complete {method : SharedString} {http_major http_minor : Nat} (hleads : Leads events (.url url)) :
    Leads (events ++ [.headersComplete method http_major http_minor])
      (.body { method, http_major, http_minor, url, headers := [], body := [] }) := by
  intro rest later htail
  rw [List.append_assoc]
  exact hleads _ [] _ (List.append_nil _).symm (.urlEnd (.headersEnd htail))

theorem Leads.value_complete {method : SharedString} {http_major http_minor : Nat}
    (hleads : Leads events (.value url headers name value)) :
    Leads (events ++ [.headersComplete method http_major http_minor])
      (.body { method, http_major, http_minor, url, headers := headers ++ [(name, value)], body := [] }) := by
  intro rest later htail
  rw [List.append_assoc]
  exact hleads _ [] [] _ rfl (by simp) (.valueEnd (.headersEnd htail))

theorem Leads.body_body (hleads : Leads events (.body wire)) :
    Leads (events ++ [.body data]) (.body { wire with body := wire.body ++ data }) := by
  intro rest later htail
  rw [List.append_assoc events]
  have hwhole := hleads (data ++ rest) (.body data :: later)
  rw [← List.append_assoc] at hwhole
  exact hwhole (.body htail)

theorem Leads.body_trailer {event : ParserEvent} (hevent : event.isHeader) (hleads : Leads events (.body wire)) :
    Leads (events ++ [event]) (.trailers wire) := by
  intro trailers htrailers
  rw [List.append_assoc]
  have hwhole := hleads [] (event :: (trailers ++ [ParserEvent.messageComplete]))
  rw [List.append_nil] at hwhole
  have hall : ∀ other ∈ event :: trailers, other.isHeader := by simpa using ⟨hevent, htrailers⟩
  exact hwhole (.bodyEnd hall)

theorem Leads.trailers_trailer {event : ParserEvent} (hevent : event.isHeader) (hleads : Leads events (.trailers wire)) :
    Leads (events ++ [event]) (.trailers wire) := by
  intro trailers htrailers
  have hall : ∀ other ∈ event :: trailers, other.isHeader := by simpa using ⟨hevent, htrailers⟩
  rw [List.append_assoc]
  exact hleads (event :: trailers) hall

theorem Leads.body_complete (hleads : Leads events (.body wire)) :
    Remaining wire .begun (events ++ [.messageComplete]) := by
  have hwhole := hleads [] [.messageComplete]
  rw [List.append_nil] at hwhole
  exact hwhole (@Remaining.bodyEnd wire [] (by simp))

theorem Leads.trailers_complete (hleads : Leads events (.trailers wire)) :
    Remaining wire .begun (events ++ [.messageComplete]) := hleads [] (by simp)

/-- A message that is being received can be completed. -/
theorem Leads.completes {received : Received} (hleads : Leads events received) :
    ∃ wire later, Remaining wire .begun (events ++ later) := by
  have hbody : ∀ wire : WireRequest, Remaining wire (.body []) [.messageComplete] := fun wire =>
    @Remaining.bodyEnd wire [] (by simp)
  cases received with
  | idle => exact hleads.elim
  | begun =>
    obtain rfl : events = [] := hleads
    let wire : WireRequest := { method := [], http_major := 0, http_minor := 0, url := [], headers := [], body := [] }
    exact ⟨wire, _, @Remaining.begun wire [] [] _ rfl (.urlEnd (.headersEnd (hbody wire)))⟩
  | url url =>
    let wire : WireRequest := { method := [], http_major := 0, http_minor := 0, url, headers := [], body := [] }
    exact ⟨wire, _, hleads wire [] _ (List.append_nil _).symm (.urlEnd (.headersEnd (hbody wire)))⟩
  | field url headers name =>
    let wire : WireRequest :=
      { method := [], http_major := 0, http_minor := 0, url, headers := headers ++ [(name, [])], body := [] }
    have htail : Remaining wire (.field [] [] [])
        [.headerValue [], .headersComplete [] 0 0, .messageComplete] :=
      @Remaining.fieldEnd wire [] [] _ _ (.valueEnd (.headersEnd (hbody wire)))
    exact ⟨wire, _, hleads wire [] [] [] _ rfl (by simp [wire]) htail⟩
  | value url headers name value =>
    let wire : WireRequest :=
      { method := [], http_major := 0, http_minor := 0, url, headers := headers ++ [(name, value)], body := [] }
    exact ⟨wire, _, hleads wire [] [] _ rfl (by simp [wire]) (.valueEnd (.headersEnd (hbody wire)))⟩
  | body wire => exact ⟨wire, _, hleads.body_complete⟩
  | trailers wire => exact ⟨wire, _, hleads.trailers_complete⟩

end leads

/-- What was heard of callbacks is what they are callbacks of. -/
def Heard.Of (heard : Heard) (events : List ParserEvent) : Prop :=
  ∃ earlier current, shown events = earlier ++ current ∧ StreamEvents heard.requests earlier ∧
    ((heard.current = .idle ∧ current = []) ∨
      ∃ message, current = .messageBegin :: message ∧ Leads message heard.current)

theorem shown_append (first second : List ParserEvent) : shown (first ++ second) = shown first ++ shown second :=
  List.filter_append _ _

theorem Heard.next_of {heard after : Heard} {events : List ParserEvent} {event : ParserEvent} (hof : heard.Of events)
    (hnext : heard.next event = some after) : after.Of (events ++ [event]) := by
  obtain ⟨requests, received⟩ := heard
  obtain ⟨earlier, current, hshown, hstream, hcurrent⟩ := hof
  -- a callback of the message that is being received
  have hgo : ∀ {next : Received}, shown [event] = [event] →
      (∀ message, current = .messageBegin :: message → Leads message received → Leads (message ++ [event]) next) →
      received ≠ .idle → Heard.Of { requests, current := next } (events ++ [event]) := by
    intro next hevent hleads hbusy
    obtain ⟨hidle, -⟩ | ⟨message, rfl, hmessage⟩ := hcurrent
    · exact absurd hidle hbusy
    · refine ⟨earlier, .messageBegin :: (message ++ [event]), ?_, hstream, .inr ⟨_, rfl, hleads message rfl hmessage⟩⟩
      rw [shown_append, hshown, hevent, List.append_assoc, List.cons_append]
  -- the last callback of a message
  have hdone : ∀ wire : WireRequest, shown [event] = [event] →
      (∀ message, Leads message received → Remaining wire .begun (message ++ [event])) → received ≠ .idle →
      Heard.Of { requests := requests ++ [wire] } (events ++ [event]) := by
    intro wire hevent hremaining hbusy
    obtain ⟨hidle, -⟩ | ⟨message, rfl, hmessage⟩ := hcurrent
    · exact absurd hidle hbusy
    · have hwire := StreamEvents.cons (hremaining message hmessage) .nil
      rw [List.append_nil] at hwire
      refine ⟨_, [], ?_, hstream.append hwire, .inl ⟨rfl, rfl⟩⟩
      rw [shown_append, hshown, hevent, List.append_nil, List.append_assoc, List.cons_append]
  cases event with
  | skip =>
    cases hnext
    exact ⟨earlier, current, by rw [shown_append, hshown]; exact List.append_nil _, hstream, hcurrent⟩
  | messageBegin =>
    cases received <;> cases hnext
    obtain ⟨-, rfl⟩ | ⟨message, rfl, hmessage⟩ := hcurrent
    · refine ⟨earlier, [.messageBegin], ?_, hstream, .inr ⟨[], rfl, rfl⟩⟩
      rw [shown_append, hshown, List.append_nil]
      rfl
    · exact hmessage.elim
  | url data =>
    cases received <;> cases hnext
    · refine hgo rfl (fun message _ hleads => ?_) nofun
      obtain rfl : message = [] := hleads
      exact leads_begun_url
    · exact hgo rfl (fun _ _ => Leads.url_url) nofun
  | headerField data =>
    cases received <;> cases hnext
    · exact hgo rfl (fun _ _ => Leads.url_field) nofun
    · exact hgo rfl (fun _ _ => Leads.field_field) nofun
    · exact hgo rfl (fun _ _ => Leads.value_field) nofun
    · exact hgo rfl (fun _ _ => Leads.body_trailer trivial) nofun
    · exact hgo rfl (fun _ _ => Leads.trailers_trailer trivial) nofun
  | headerValue data =>
    cases received <;> cases hnext
    · exact hgo rfl (fun _ _ => Leads.field_value) nofun
    · exact hgo rfl (fun _ _ => Leads.value_value) nofun
    · exact hgo rfl (fun _ _ => Leads.trailers_trailer trivial) nofun
  | headersComplete method http_major http_minor =>
    cases received <;> cases hnext
    · exact hgo rfl (fun _ _ => Leads.url_complete) nofun
    · exact hgo rfl (fun _ _ => Leads.value_complete) nofun
  | body data =>
    cases received <;> cases hnext
    exact hgo rfl (fun _ _ => Leads.body_body) nofun
  | messageComplete =>
    cases received <;> cases hnext
    · exact hdone _ rfl (fun _ => Leads.body_complete) nofun
    · exact hdone _ rfl (fun _ => Leads.trailers_complete) nofun
  | error => cases hnext

theorem Heard.of_foldlM {heard : Heard} {events : List ParserEvent} (hheard : events.foldlM Heard.next {} = some heard) :
    heard.Of events := by
  induction events using List.reverseRecOn generalizing heard with
  | nil =>
    obtain rfl := Option.some.inj hheard
    exact ⟨[], [], rfl, .nil, .inl ⟨rfl, rfl⟩⟩
  | append_singleton events event ih =>
    rw [List.foldlM_append] at hheard
    obtain ⟨before, hbefore, hlast⟩ := Option.bind_eq_some_iff.mp hheard
    rw [List.foldlM_cons] at hlast
    obtain ⟨after, hafter, hsame⟩ := Option.bind_eq_some_iff.mp hlast
    obtain rfl := Option.some.inj hsame
    exact Heard.next_of (ih hbefore) hafter

/-- Callbacks that come in order are the first ones of a stream of requests, which begins with those that were heard. -/
theorem Heard.stream {heard : Heard} {events : List ParserEvent} (hof : heard.Of events) :
    ∃ more later, StreamEvents (heard.requests ++ more) (shown events ++ later) ∧
      (heard.current = .idle → more = [] ∧ later = []) := by
  obtain ⟨earlier, current, hshown, hstream, ⟨hidle, rfl⟩ | ⟨message, rfl, hmessage⟩⟩ := hof
  · refine ⟨[], [], ?_, fun _ => ⟨rfl, rfl⟩⟩
    rwa [hshown, List.append_nil, List.append_nil, List.append_nil]
  · obtain ⟨wire, later, hwire⟩ := hmessage.completes
    refine ⟨[wire], later, ?_, fun hidle => ?_⟩
    · have hlast := StreamEvents.cons hwire .nil
      rw [hshown, List.append_assoc]
      simpa using hstream.append hlast
    · rw [hidle] at hmessage
      exact hmessage.elim

/-- What can have been heard in a place. The data that is marked there has not been reported. -/
def Place.suits : Place → Received → Bool
  | .idle, .idle | .begun, .begun | .url, .begun | .url, .url _ => true
  | .headers false, .url _ | .headers false, .value .. | .headers true, .body _ | .headers true, .trailers _ => true
  | .field false, .url _ | .field false, .field .. | .field false, .value .. => true
  | .field true, .body _ | .field true, .trailers _ => true
  | .fieldEnd false, .field .. | .fieldEnd true, .trailers _ => true
  | .value false, .field .. | .value false, .value .. | .value true, .trailers _ => true
  | .valueEnd false, .value .. | .valueEnd true, .trailers _ => true
  | .chunk, .body _ | .data, .body _ | .dataEnd, .body _ => true
  | _, _ => false

/-- All callbacks so far come in order, and suit a place. -/
def Hears (place : Place) (events : List ParserEvent) : Prop :=
  ∃ heard, events.foldlM Heard.next {} = some heard ∧ place.suits heard.current = true

section hears

variable {place after : Place} {events : List ParserEvent} {trailing : Bool}

theorem foldlM_concat {heard next : Heard} {event : ParserEvent} (hheard : events.foldlM Heard.next {} = some heard)
    (hnext : heard.next event = some next) : (events ++ [event]).foldlM Heard.next {} = some next := by
  rw [List.foldlM_append, hheard]
  simpa using hnext

/-- The callbacks go on with another one that suits every case of what was heard. -/
theorem Hears.concat {event : ParserEvent} (hhears : Hears place events)
    (hnext : ∀ requests received, place.suits received = true →
      ∃ next, Heard.next { requests, current := received } event = some next ∧ after.suits next.current = true) :
    Hears after (events ++ [event]) := by
  obtain ⟨⟨requests, received⟩, hheard, hsuits⟩ := hhears
  obtain ⟨next, hevent, hafter⟩ := hnext requests received hsuits
  exact ⟨next, foldlM_concat hheard hevent, hafter⟩

theorem Hears.urlEnd (hhears : Hears .url events) (str : SharedString) :
    Hears (.headers false) (events ++ [.url str]) := by
  refine hhears.concat fun requests received hsuits => ?_
  cases received <;> cases hsuits <;> exact ⟨_, rfl, rfl⟩

theorem Hears.fieldEnd (hhears : Hears (.field trailing) events) (str : SharedString) :
    Hears (.fieldEnd trailing) (events ++ [.headerField str]) := by
  refine hhears.concat fun requests received hsuits => ?_
  cases trailing <;> cases received <;> cases hsuits <;> exact ⟨_, rfl, rfl⟩

theorem Hears.valueEnd (hhears : Hears (.value trailing) events) (str : SharedString) :
    Hears (.valueEnd trailing) (events ++ [.headerValue str]) := by
  refine hhears.concat fun requests received hsuits => ?_
  cases trailing <;> cases received <;> cases hsuits <;> exact ⟨_, rfl, rfl⟩

theorem Hears.weaken (hhears : Hears place events)
    (hsuits : ∀ received, place.suits received = true → after.suits received = true) : Hears after events := by
  obtain ⟨heard, hheard, hbefore⟩ := hhears
  exact ⟨heard, hheard, hsuits _ hbefore⟩

theorem HeaderLine.hears {actions : List Action} {callbacks before : List ParserEvent} {done : Scan} {ch : UInt8}
    (hline : HeaderLine trailing actions after) (hhears : Hears (.headers trailing) (before ++ callbacks))
    (hacts : actions.foldlM (Scan.act ch) { callbacks } = some done) : Hears after (before ++ done.callbacks) := by
  cases hline with
  | line =>
    cases hacts
    exact hhears
  | field =>
    cases hacts
    refine hhears.weaken fun received hsuits => ?_
    cases trailing <;> cases received <;> first | rfl | cases hsuits
  | complete hplace =>
    cases hacts
    rw [← List.append_assoc]
    refine hhears.concat fun requests received hsuits => ?_
    obtain rfl | rfl := hplace <;> cases received <;> cases hsuits <;> exact ⟨_, rfl, rfl⟩
  | @completeAll method http_major http_minor =>
    cases hacts
    have hcomplete : Hears .data (before ++ callbacks ++ [.headersComplete method http_major http_minor]) := by
      refine hhears.concat fun requests received hsuits => ?_
      cases received <;> cases hsuits <;> exact ⟨_, rfl, rfl⟩
    have hall : Hears .idle (before ++ callbacks ++ [.headersComplete method http_major http_minor] ++ [.messageComplete]) := by
      refine hcomplete.concat fun requests received hsuits => ?_
      cases received <;> cases hsuits
      exact ⟨_, rfl, rfl⟩
    simpa using hall
  | trailersComplete =>
    cases hacts
    have hskip : Hears (.headers true) (before ++ callbacks ++ [.skip]) := by
      refine hhears.concat fun requests received hsuits => ?_
      exact ⟨_, rfl, hsuits⟩
    have hall : Hears .idle (before ++ callbacks ++ [.skip] ++ [.messageComplete]) := by
      refine hskip.concat fun requests received hsuits => ?_
      cases received <;> cases hsuits <;> exact ⟨_, rfl, rfl⟩
    simpa using hall

theorem Hears.skip (hhears : Hears place events) (hsuits : ∀ received, place.suits received = true →
    after.suits received = true) : Hears after (events ++ [.skip]) :=
  hhears.concat fun _ received hbefore => ⟨_, rfl, hsuits received hbefore⟩

theorem Hears.body (hhears : Hears .data events) (str : SharedString) : Hears .data (events ++ [.body str]) := by
  refine hhears.concat fun requests received hsuits => ?_
  cases received <;> cases hsuits
  exact ⟨_, rfl, rfl⟩

/-- The places behind the headers suit the same. -/
theorem Hears.inBody (hhears : Hears place events) (hplace : place = .chunk ∨ place = .data ∨ place = .dataEnd)
    (hafter : after = .chunk ∨ after = .data ∨ after = .dataEnd) : Hears after events := by
  refine hhears.weaken fun received hsuits => ?_
  rcases hplace with rfl | rfl | rfl <;> rcases hafter with rfl | rfl | rfl <;> cases received <;>
    first | rfl | cases hsuits

/-- What a character brings about comes in order. -/
theorem Moves.hears {actions : List Action} {scan done : Scan} {before : List ParserEvent} {ch : UInt8}
    (hmoves : Moves place actions after) (hfits : scan.Fits place) (hhears : Hears place (before ++ scan.callbacks))
    (hacts : actions.foldlM (Scan.act ch) scan = some done) : Hears after (before ++ done.callbacks) := by
  obtain ⟨callbacks, pending⟩ := scan
  cases hmoves with
  | idle | begun | blank | lineEnd | chunk =>
    cases hfits
    cases hacts
    exact hhears
  | begin =>
    cases hfits
    cases hacts
    rw [← List.append_assoc]
    refine hhears.concat fun requests received hsuits => ?_
    cases received <;> cases hsuits
    exact ⟨_, rfl, rfl⟩
  | urlBegin =>
    cases hfits
    cases hacts
    refine hhears.weaken fun received hsuits => ?_
    cases received <;> first | rfl | cases hsuits
  | valueBegin | valueFolded =>
    cases hfits
    cases hacts
    refine hhears.weaken fun received hsuits => ?_
    rename_i trailing
    cases trailing <;> cases received <;> first | rfl | cases hsuits
  | url | field | value =>
    obtain ⟨str, hpending⟩ := hfits
    cases hpending
    cases hacts
    exact hhears
  | urlEnd =>
    obtain ⟨str, hpending⟩ := hfits
    cases hpending
    cases hacts
    rw [← List.append_assoc]
    exact hhears.urlEnd _
  | fieldEnd =>
    obtain ⟨str, hpending⟩ := hfits
    cases hpending
    cases hacts
    rw [← List.append_assoc]
    exact hhears.fieldEnd _
  | valueEnd =>
    obtain ⟨str, hpending⟩ := hfits
    cases hpending
    cases hacts
    rw [← List.append_assoc]
    exact hhears.valueEnd _
  | headers hline =>
    cases hfits
    exact hline.hears hhears hacts
  | @lineDone trailing _ _ hline =>
    cases hfits
    refine hline.hears (hhears.weaken fun received hsuits => ?_) hacts
    cases trailing <;> cases received <;> first | rfl | cases hsuits
  | @valueEmpty trailing actions _ hline =>
    cases hfits
    have hvalue : Hears (.headers trailing) (before ++ (callbacks ++ [.headerValue []])) := by
      rw [← List.append_assoc]
      refine hhears.concat fun requests received hsuits => ?_
      cases trailing <;> cases received <;> cases hsuits <;> exact ⟨_, rfl, rfl⟩
    exact hline.hears hvalue hacts
  | chunkNotify hplace =>
    cases hfits
    cases hacts
    rw [← List.append_assoc]
    refine hhears.skip fun received hsuits => ?_
    obtain rfl | rfl | rfl := hplace <;> cases received <;> first | rfl | cases hsuits
  | data hplace =>
    have hafter : Hears after (before ++ callbacks) := hhears.inBody (.inr (.inl rfl)) (.inr hplace)
    obtain hpending | ⟨str, hpending⟩ := hfits <;> cases hpending <;> cases hacts <;> exact hafter
  | dataComplete =>
    have hcomplete : ∀ str, Hears .idle (before ++ (callbacks ++ [.body str] ++ [.messageComplete])) := by
      intro str
      rw [← List.append_assoc, ← List.append_assoc]
      refine (hhears.body str).concat fun requests received hsuits => ?_
      cases received <;> cases hsuits
      exact ⟨_, rfl, rfl⟩
    obtain hpending | ⟨str, hpending⟩ := hfits <;> cases hpending <;> cases hacts <;> exact hcomplete _
  | dataEnd =>
    have hdata : Hears .data (before ++ callbacks) := hhears.inBody (.inr (.inr rfl)) (.inr (.inl rfl))
    obtain hpending | ⟨str, hpending⟩ := hfits <;> cases hpending <;> cases hacts
    · exact hdata.inBody (.inr (.inl rfl)) (.inl rfl)
    · rw [← List.append_assoc]
      exact (hdata.body _).inBody (.inr (.inl rfl)) (.inl rfl)

/-- What is reported at the end of a buffer comes in order. -/
theorem Hears.flush {scan : Scan} {before : List ParserEvent} (hfits : scan.Fits place)
    (hhears : Hears place (before ++ scan.callbacks)) : Hears place (before ++ scan.flush) := by
  obtain ⟨callbacks, pending⟩ := scan
  have hnone : pending = none → Hears place (before ++ Scan.flush { callbacks, pending }) := by
    rintro rfl
    simpa [Scan.flush] using hhears
  cases place with
  | url =>
    obtain ⟨str, rfl⟩ := hfits
    refine List.append_assoc .. ▸ hhears.concat fun requests received hsuits => ?_
    cases received <;> cases hsuits <;> exact ⟨_, rfl, rfl⟩
  | field trailing =>
    obtain ⟨str, rfl⟩ := hfits
    refine List.append_assoc .. ▸ hhears.concat fun requests received hsuits => ?_
    cases trailing <;> cases received <;> cases hsuits <;> exact ⟨_, rfl, rfl⟩
  | value trailing =>
    obtain ⟨str, rfl⟩ := hfits
    refine List.append_assoc .. ▸ hhears.concat fun requests received hsuits => ?_
    cases trailing <;> cases received <;> cases hsuits <;> exact ⟨_, rfl, rfl⟩
  | data =>
    obtain hpending | ⟨str, rfl⟩ := hfits
    · exact hnone hpending
    · exact List.append_assoc .. ▸ Hears.body hhears str
  | dataEnd =>
    obtain hpending | ⟨str, rfl⟩ := hfits
    · exact hnone hpending
    · have hdata : Hears .data (before ++ callbacks) := hhears.inBody (.inr (.inr rfl)) (.inr (.inl rfl))
      exact List.append_assoc .. ▸ (hdata.body str).inBody (.inr (.inl rfl)) (.inr (.inr rfl))
  | _ => exact hnone hfits

/-- The callbacks of a buffer come in order, also those in front of an error. -/
theorem Scanned.hears {parser : Parser} {scan : Scan} {data : SharedString} {outcome : Outcome}
    {before : List ParserEvent} (hscanned : Scanned parser scan data outcome) (hfits : scan.Fits parser.place)
    (hhears : Hears parser.place (before ++ scan.callbacks)) :
    ∃ place, Hears place (before ++ outcome.callbacks) ∧ ∀ after, outcome.result = .ok after → after.place = place := by
  induction hscanned with
  | finish => exact ⟨_, hhears.flush hfits, fun after hok => by cases hok; rfl⟩
  | @next parser after scan done ch rest outcome hending hafter hmoves _ hacts hrest ih =>
    obtain ⟨_, hdone, hdoneFits⟩ := hmoves.act hfits ch
    obtain rfl := Option.some.inj (hacts.symm.trans hdone)
    have hdoneHears := hmoves.hears hfits hhears hacts
    exact ih hdoneFits hdoneHears
  | leave hending hafter hmoves hleft hacts =>
    exact ⟨_, hmoves.hears hfits hhears hacts, fun after hok => by cases hok; rfl⟩
  | @error parser after scan done ch rest errno hending hrefuses hacts =>
    have hdone : ∃ place, Hears place (before ++ done.callbacks) := by
      obtain ⟨callbacks, pending⟩ := scan
      generalize (parser.round ch []).actions = actions at hrefuses hacts
      generalize parser.place = place at hrefuses hfits hhears
      cases hrefuses with
      | nothing =>
        cases hacts
        exact ⟨_, hhears⟩
      | url | value | valueFolded =>
        cases hfits
        cases hacts
        exact ⟨_, hhears⟩
      | @valueEmpty trailing =>
        cases hfits
        cases hacts
        refine ⟨.headers trailing, List.append_assoc .. ▸ hhears.concat fun requests received hsuits => ?_⟩
        cases trailing <;> cases received <;> cases hsuits <;> exact ⟨_, rfl, rfl⟩
    obtain ⟨place, hplace⟩ := hdone
    exact ⟨place, hplace, fun after hok => by cases hok⟩

/-- Callbacks that come in order are the first ones of a stream, and all of it where the parser is between two messages. -/
theorem Hears.stream (hhears : Hears place events) :
    ∃ requests later, StreamEvents requests (shown events ++ later) ∧ (place = .idle → later = []) := by
  obtain ⟨heard, hheard, hsuits⟩ := hhears
  obtain ⟨more, later, hstream, hidle⟩ := Heard.stream (Heard.of_foldlM hheard)
  refine ⟨_, later, hstream, fun hplace => (hidle ?_).2⟩
  rw [hplace] at hsuits
  cases hcurrent : heard.current <;> rw [hcurrent] at hsuits <;> first | rfl | cases hsuits

end hears

end HttpParser

end cpv
