import Cpv.HttpParser.BodyHeaders
import Cpv.HttpParser.Grammar

namespace cpv.HttpParser

/-- What a parser keeps behind a header line, or behind the line in front of the headers -/
inductive LineTold (parser : Parser) : Received → Prop
  | url {url : SharedString} (htrailing : parser.flags.F_TRAILING = false) (htallies : Tallies parser []) :
      LineTold parser (.url url)
  | value {url : SharedString} {headers : List (SharedString × SharedString)} {name value : SharedString}
      (htrailing : parser.flags.F_TRAILING = false) (htallies : Tallies parser (headers ++ [(name, value)])) :
      LineTold parser (.value url headers name value)
  | body {wire : WireRequest} (htrailing : parser.flags.F_TRAILING = true) (hframed : Framed wire) :
      LineTold parser (.body wire)
  | trailers {wire : WireRequest} (htrailing : parser.flags.F_TRAILING = true) (hframed : Framed wire) :
      LineTold parser (.trailers wire)

/-- The places behind the last chunk -/
def trailerPlaces : List Place := [.field true, .fieldEnd true, .value true, .valueEnd true]

/-- What a parser keeps of the message that is being received is enough to frame its body. -/
inductive Announced (parser : Parser) : Received → Prop
  | idle (hplace : parser.place = .idle) : Announced parser .idle
  | begun (hplace : parser.place = .begun) (htallies : Tallies parser []) : Announced parser .begun
  | url {url : SharedString} (hplace : parser.place = .url) (htallies : Tallies parser []) : Announced parser (.url url)
  | line {received : Received} (hplace : parser.place = .headers parser.flags.F_TRAILING)
      (hline : LineTold parser received) : Announced parser received
  | field {url : SharedString} {headers : List (SharedString × SharedString)} {name : SharedString}
      (hplace : parser.place = .field false) (htallies : Tallies parser headers) (hname : name ≠ [])
      (htoken : ∀ c ∈ name, TOKEN c ≠ 0)
      (hstate : (parser.header_state, parser.index) = nameState (lowerName name)) :
      Announced parser (.field url headers name)
  | fieldEnd {url : SharedString} {headers : List (SharedString × SharedString)} {name : SharedString}
      (hplace : parser.place = .fieldEnd false) (htallies : Tallies parser headers)
      (hnamed : Named parser.header_state name) : Announced parser (.field url headers name)
  | value {url : SharedString} {headers : List (SharedString × SharedString)} {name value : SharedString}
      (hplace : parser.place = .value false ∨ parser.place = .valueEnd false)
      (hread : ValueRead parser headers name value) : Announced parser (.value url headers name value)
  | trailer {wire : WireRequest} (hplace : parser.place ∈ trailerPlaces) (hframed : Framed wire) :
      Announced parser (.trailers wire)
  | body {wire : WireRequest} (hplace : parser.place ∈ [.chunk, .data, .dataEnd])
      (hframed : ∀ body : SharedString,
        (parser.state = .s_body_identity → body.length = wire.body.length + parser.content_length) →
        Framed { wire with body }) : Announced parser (.body wire)

theorem LineTold.congr {parser after : Parser} {received : Received} (hline : LineTold parser received) (hflags : after.flags = parser.flags)
    (hcontent : after.content_length = parser.content_length) : LineTold after received := by
  have htallies : ∀ {headers}, Tallies parser headers → Tallies after headers := fun h =>
    h.congr (by rw [hflags]) (by rw [hflags]) hcontent
  cases hline with
  | url htrailing h => exact .url (hflags ▸ htrailing) (htallies h)
  | value htrailing h => exact .value (hflags ▸ htrailing) (htallies h)
  | body htrailing hframed => exact .body (hflags ▸ htrailing) hframed
  | trailers htrailing hframed => exact .trailers (hflags ▸ htrailing) hframed

/-- Actions at a character lead to callbacks, and what was heard with those has a property. -/
def Told (received : Received) (ch : UInt8) (scan : Scan) (actions : List Action) (P : Heard → Prop) : Prop :=
  ∃ done heard, actions.foldlM (Scan.act ch) scan = some done ∧
    (done.advance ch).flush.foldlM Heard.next { current := received } = some heard ∧ P heard

/-- The requests that were heard are framed, and what the parser keeps is enough for the one that is being received. -/
def Frames (after : Parser) (heard : Heard) : Prop :=
  Announced after heard.current ∧ ∀ wire ∈ heard.requests, Framed wire

/-- What a character tells is what the headers announce. -/
def Tells (received : Received) (ch : UInt8) (scan : Scan) (round : Round) : Prop :=
  ∀ after, round.ending = .next after 0 ∨ round.ending = .leave after 0 →
    Told received ch scan round.actions (Frames after)

section tells

variable {received told : Received} {parser after : Parser} {ch : UInt8} {scan done : Scan} {actions : List Action}

theorem Tells.next (actions : List Action) (hacts : actions.foldlM (Scan.act ch) scan = some done)
    (hheard : (done.advance ch).flush.foldlM Heard.next { current := received } = some { current := told })
    (hannounced : Announced after told) : Tells received ch scan ((Round.next after).after actions) := by
  rintro _ (hending | hending) <;> cases hending
  exact ⟨done, { current := told }, by simpa [Round.after, Round.next] using hacts, hheard, hannounced, nofun⟩

theorem Tells.go (hheard : (scan.advance ch).flush.foldlM Heard.next { current := received } = some { current := told })
    (hannounced : Announced after told) : Tells received ch scan (.next after) :=
  Tells.next [] rfl hheard hannounced

/-- The request that is received last is complete. -/
theorem Tells.complete {wire : WireRequest} {ending : Ending} (hacts : actions.foldlM (Scan.act ch) scan = some done)
    (hheard : (done.advance ch).flush.foldlM Heard.next { current := received } = some { requests := [wire] })
    (hframed : Framed wire) (hending : ∀ after, ending = .next after 0 ∨ ending = .leave after 0 → after.place = .idle) :
    Tells received ch scan { actions, ending } := by
  intro after hafter
  refine ⟨done, _, hacts, hheard, .idle (hending after hafter), ?_⟩
  intro other hother
  obtain rfl : other = wire := by simpa using hother
  exact hframed

theorem Tells.refuse {errno : http_errno} {p : Nat} :
    Tells received ch scan { actions, ending := .error errno parser p } := by
  rintro _ (hending | hending) <;> cases hending

theorem Tells.fail : Tells received ch scan { actions, ending := .failed } := by
  rintro _ (hending | hending) <;> cases hending

/-- Callbacks that come first are heard first. -/
theorem acts_callbacks (callbacks : List ParserEvent)
    (hacts : actions.foldlM (Scan.act ch) scan = some done) :
    actions.foldlM (Scan.act ch) { scan with callbacks := callbacks ++ scan.callbacks } =
      some { done with callbacks := callbacks ++ done.callbacks } := by
  induction actions generalizing scan with
  | nil =>
    cases hacts
    rfl
  | cons action actions ih =>
    rw [List.foldlM_cons] at hacts ⊢
    obtain ⟨middle, hmiddle, hrest⟩ := Option.bind_eq_some_iff.mp hacts
    have hfirst : Scan.act ch { scan with callbacks := callbacks ++ scan.callbacks } action =
        some { middle with callbacks := callbacks ++ middle.callbacks } := by
      obtain ⟨scanned, pending⟩ := scan
      cases action <;> cases pending <;> simp only [Scan.act] at hmiddle ⊢ <;> grind
    rw [hfirst]
    exact ih hrest

theorem Told.behind {callbacks : List ParserEvent} {P : Heard → Prop}
    (hheard : callbacks.foldlM Heard.next { current := received } = some { current := told })
    (htold : Told told ch {} actions P) : Told received ch { callbacks } actions P := by
  obtain ⟨done, heard, hacts, hdone, hP⟩ := htold
  have hboth := acts_callbacks callbacks hacts
  rw [List.append_nil] at hboth
  refine ⟨_, heard, hboth, ?_, hP⟩
  have hflush : (Scan.advance ch { done with callbacks := callbacks ++ done.callbacks }).flush =
      callbacks ++ (done.advance ch).flush := List.append_assoc ..
  rw [hflush, List.foldlM_append, hheard]
  exact hdone

theorem Told.acts {later : List Action} {P : Heard → Prop} (hacts : actions.foldlM (Scan.act ch) scan = some done)
    (htold : Told received ch done later P) : Told received ch scan (actions ++ later) P := by
  obtain ⟨final, heard, hfinal, hheard⟩ := htold
  refine ⟨final, heard, ?_, hheard⟩
  rw [List.foldlM_append, hacts]
  exact hfinal

theorem Tells.acts {round : Round} (actions : List Action) (hacts : actions.foldlM (Scan.act ch) scan = some done)
    (htells : Tells received ch done round) : Tells received ch scan (round.after actions) :=
  fun after hending => (htells after hending).acts hacts

theorem Tells.behind {round : Round} {callbacks : List ParserEvent}
    (hheard : callbacks.foldlM Heard.next { current := received } = some { current := told })
    (htells : Tells told ch {} round) : Tells received ch { callbacks } round :=
  fun after hending => (htells after hending).behind hheard

end tells

section lines

variable {parser after : Parser} {ch : UInt8} {received : Received} {url name value : SharedString}
  {headers : List (SharedString × SharedString)}

theorem newMessage_place (parser : Parser) : { parser with state := parser.NEW_MESSAGE }.place = .idle :=
  (Parser.newMessage_spec _ rfl).1

/-- Behind the headers comes what they announce. -/
theorem headersDone_tells {http_major http_minor : Nat} {url : SharedString} (htallies : Tallies parser headers)
    (hboth : ¬ (parser.flags.F_CHUNKED = true ∧ parser.flags.F_CONTENTLENGTH = true))
    (hupgrade : parser.method = .CONNECT → parser.upgrade = true) (hch : ch = LF) :
    Tells (.body { method := parser.method.method_string, http_major, http_minor, url, headers, body := [] }) ch {}
      (parser.headersDone ch) := by
  have hlengths := htallies.length
  unfold LengthTold at hlengths
  have hplace : { parser with nread := 0, state := { parser with nread := 0 }.NEW_MESSAGE }.place = .idle :=
    newMessage_place { parser with nread := 0 }
  rw [Parser.headersDone, if_pos hch]
  dsimp only
  split
  case isTrue hleaves =>
    refine Tells.complete rfl rfl ?_ fun after hafter => ?_
    · refine htallies.framed hboth rfl rfl (fun _ => rfl) (fun hother hflag => ?_) fun _ _ _ => rfl
      simp only [hflag, if_true] at hlengths
      have hbody := hleaves.2.resolve_left hother
      simp only [Bool.not_eq_true', Bool.or_eq_false_iff, Bool.and_eq_false_iff, decide_eq_false_iff_not] at hbody
      obtain ⟨-, hzero | hmax⟩ := hbody
      · simp only [List.length_nil]
        omega
      · simp at hmax
        omega
    · obtain hafter | hafter := hafter <;> cases hafter
      exact hplace
  case isFalse hstays =>
  have hother : parser.method ≠ .CONNECT := fun h => hstays ⟨hupgrade h, .inl h⟩
  split
  case isTrue hchunked =>
    have hflag : parser.flags.F_CONTENTLENGTH = false := Bool.eq_false_iff.mpr fun h => hboth ⟨hchunked, h⟩
    refine Tells.go rfl (.body (by simp [Parser.place]) fun body _ => ?_)
    exact htallies.framed hboth rfl rfl (fun h => absurd h hother) (fun _ h => by rw [hflag] at h; cases h)
      fun _ _ h => by rw [hchunked] at h; cases h
  case isFalse hchunked =>
  split
  case isTrue hlength =>
    refine Tells.go rfl (.body (by simp [Parser.place]) fun body hbody => ?_)
    refine htallies.framed hboth rfl rfl (fun h => absurd h hother) (fun _ _ => ?_) fun _ hflag _ => ?_
    · simpa using hbody rfl
    · simp only [hflag, Bool.false_eq_true, if_false] at hlengths
      exact absurd hlengths.1 hlength.2
  case isFalse hlength =>
    refine Tells.complete rfl rfl ?_ fun after hafter => ?_
    · refine htallies.framed hboth rfl rfl (fun _ => rfl) (fun _ hflag => ?_) fun _ _ _ => rfl
      simp only [hflag, if_true] at hlengths
      simp only [List.length_nil]
      omega
    · obtain hafter | hafter := hafter <;> cases hafter
      exact hplace

theorem headersAlmostDone_tells (hline : LineTold parser received) : Tells received ch {} (parser.headersAlmostDone ch) := by
  unfold Parser.headersAlmostDone
  split
  case isFalse => exact Tells.refuse
  case isTrue hch =>
  split
  case isTrue htrailing =>
    have hplace := newMessage_place { parser with state := .s_message_done }
    have hending : ∀ after, ({ parser with state := .s_message_done }.messageDone).ending = .next after 0 ∨
        ({ parser with state := .s_message_done }.messageDone).ending = .leave after 0 → after.place = .idle := by
      intro after hafter
      unfold Parser.messageDone at hafter
      dsimp only at hafter
      split at hafter <;> obtain hafter | hafter := hafter <;> cases hafter <;> exact hplace
    cases hline with
    | url hfalse | value hfalse =>
      rw [hfalse] at htrailing
      cases htrailing
    | body _ hframed => exact Tells.complete rfl rfl hframed hending
    | trailers _ hframed => exact Tells.complete rfl rfl hframed hending
  case isFalse htrailing =>
  split
  case isTrue => exact Tells.refuse
  case isFalse hboth =>
  have hconnect : parser.method = .CONNECT →
      (if parser.flags.F_UPGRADE ∧ parser.flags.F_CONNECTION_UPGRADE then true else decide (parser.method = .CONNECT)) =
        true := by
    intro h
    simp [h]
  refine Tells.acts [.CALLBACK_NOTIFY _] rfl ?_
  cases hline with
  | url _ htallies => exact Tells.behind rfl (headersDone_tells (htallies.congr rfl rfl rfl) hboth hconnect hch)
  | value _ htallies => exact Tells.behind rfl (headersDone_tells (htallies.congr rfl rfl rfl) hboth hconnect hch)
  | body htrue | trailers htrue => exact absurd htrue htrailing

theorem headerFieldStart_tells (hline : LineTold parser received) : Tells received ch {} (parser.headerFieldStart ch) := by
  unfold Parser.headerFieldStart
  split
  case isTrue => exact Tells.go rfl (.line rfl (hline.congr rfl rfl))
  split
  case isTrue => exact headersAlmostDone_tells (hline.congr rfl rfl)
  split
  case isTrue => exact Tells.refuse
  case isFalse htoken =>
    have hfield : ∀ (url : SharedString) (headers : List (SharedString × SharedString)),
        parser.flags.F_TRAILING = false → Tallies parser headers →
        Announced { parser with index := 0, state := .s_header_field, header_state := Parser.firstHeaderState (TOKEN ch) }
          (.field url headers [ch]) := by
      intro url headers hfalse htallies
      refine .field (by simp [Parser.place, hfalse]) (htallies.congr rfl rfl rfl) (by simp) ?_ rfl
      simpa using htoken
    have htrailer : ∀ wire : WireRequest, parser.flags.F_TRAILING = true → Framed wire →
        Announced { parser with index := 0, state := .s_header_field, header_state := Parser.firstHeaderState (TOKEN ch) }
          (.trailers wire) :=
      fun wire htrue => .trailer (by simp [Parser.place, htrue, trailerPlaces])
    cases hline with
    | url hfalse htallies => exact Tells.next _ rfl rfl (hfield _ _ hfalse htallies)
    | value hfalse htallies => exact Tells.next _ rfl rfl (hfield _ _ hfalse htallies)
    | body htrue hframed => exact Tells.next _ rfl rfl (htrailer _ htrue hframed)
    | trailers htrue hframed => exact Tells.next _ rfl rfl (htrailer _ htrue hframed)

/-- The first character of a value -/
theorem headerValueStart_tells (hfalse : parser.flags.F_TRAILING = false) (htallies : Tallies parser headers)
    (hnamed : Named parser.header_state name) :
    Tells (.field url headers name) ch {} (parser.headerValueStart ch) := by
  have hgo : ∀ after : Parser, after.state = .s_header_value → after.flags.F_TRAILING = false →
      ValueRead after headers name [ch] →
      Tells (.field url headers name) ch {} ((Round.next after).after [.MARK .header_value]) := by
    intro after hstate htrailing hread
    exact Tells.next _ rfl rfl (.value (.inl (by simp [Parser.place, hstate, htrailing])) hread)
  have hother : ∀ after : Parser, parser.header_state ≠ .h_content_length →
      parser.header_state ≠ .h_transfer_encoding → after.state = .s_header_value → after.flags.F_TRAILING = false →
      Tallies after headers → after.header_state.ofOther = true →
      (¬ IsConnection name → after.header_state = .h_general) →
      Tells (.field url headers name) ch {} ((Round.next after).after [.MARK .header_value]) :=
    fun after hnoLength hnoCoding hstate htrailing hafter hofOther hgeneral => hgo after hstate htrailing
      (.other (fun h => hnoLength (hnamed.length.mpr h)) (fun h => hnoCoding (hnamed.coding.mpr h)) hafter hofOther hgeneral)
  unfold Parser.headerValueStart
  cases hstate : parser.header_state <;> dsimp only
  case h_upgrade =>
    exact hother _ (by rw [hstate]; decide) (by rw [hstate]; decide) rfl hfalse (htallies.congr rfl rfl rfl) rfl
      fun _ => rfl
  case h_transfer_encoding =>
    have hname := hnamed.coding.mp hstate
    split
    case isTrue hc =>
      refine hgo _ rfl hfalse (.coding hname (htallies.congr rfl rfl rfl) ⟨Nat.zero_lt_succ 5, ?_⟩)
      rw [List.map_singleton, hc]
      rfl
    case isFalse hc =>
      refine hgo _ rfl hfalse (.coding hname (htallies.congr rfl rfl rfl) ?_)
      exact fun hprefix => hc ((LOWER_c_iff ch).mp hprefix)
  case h_content_length =>
    have hname := hnamed.length.mp hstate
    split
    case isFalse => exact Tells.acts [.MARK .header_value] rfl Tells.refuse
    case isTrue hdigit =>
    split
    case isTrue => exact Tells.acts [.MARK .header_value] rfl Tells.refuse
    case isFalse hflag =>
      have hlengths := htallies.length
      have hlt := digit_lt ch hdigit
      rw [LengthTold, if_neg hflag] at hlengths
      refine hgo _ rfl hfalse (.length hname hlengths.2 ⟨htallies.coding.chunked, htallies.coding.exact⟩ rfl ?_ ?_)
      · unfold ULLONG_MAX
        dsimp only
        omega
      · exact .inr ⟨rfl, by simp, by simpa using hdigit, by simp [decimal]⟩
  case h_connection =>
    refine hother _ (by rw [hstate]; decide) (by rw [hstate]; decide) rfl hfalse (htallies.congr rfl rfl rfl) ?_
      fun hname => absurd (hnamed.connection.mp hstate) hname
    unfold Parser.firstConnectionToken
    split_ifs <;> rfl
  case h_content_length_ws | h_matching_connection_token_start =>
    have hfield := hnamed.field
    rw [hstate] at hfield
    cases hfield
  all_goals
    exact hother _ (by rw [hstate]; decide) (by rw [hstate]; decide) rfl hfalse (htallies.congr rfl rfl rfl) rfl
      fun _ => rfl

/-- The first character of the line that a value is folded over -/
theorem headerValueStart_folded_tells (hfalse : parser.flags.F_TRAILING = false) (hblank : ch = byte ' ' ∨ ch = byte '\t')
    (hread : ValueRead parser headers name value) {header_state : HeaderState}
    (hstate : header_state =
      if parser.header_state = .h_content_length_num then .h_content_length_ws else parser.header_state) :
    Tells (.value url headers name value) ch {}
      ({ parser with header_state, state := .s_header_value_start }.headerValueStart ch) := by
  have hgo : ∀ after : Parser, after.state = .s_header_value → after.flags.F_TRAILING = false →
      ValueRead after headers name (value ++ [ch]) →
      Tells (.value url headers name value) ch {} ((Round.next after).after [.MARK .header_value]) := by
    intro after hafter htrailing hread
    exact Tells.next _ rfl rfl (.value (.inl (by simp [Parser.place, hafter, htrailing])) hread)
  unfold Parser.headerValueStart
  cases hread with
  | length hname hbefore hcoding hflag hlt hread =>
    obtain rfl : header_state = .h_content_length_ws := by
      obtain ⟨hws, -⟩ | ⟨hnum, -⟩ := hread
      · rw [hstate, hws, if_neg (by decide)]
      · rw [hstate, if_pos hnum]
    exact hgo _ rfl hfalse (.length hname hbefore hcoding hflag hlt (.inl ⟨rfl, hread.isLength.concat hblank⟩))
  | coding hname htallies hread =>
    have hnot := not_prefix_blank value hblank
    cases hcase : parser.header_state <;> rw [hcase] at hread hstate <;> try exact hread.elim
    all_goals
      rw [if_neg (by decide)] at hstate
      subst hstate
      exact hgo _ rfl hfalse (.coding hname (htallies.congr rfl rfl rfl) hnot)
  | other hlength hcoding htallies hofOther hgeneral =>
    cases hcase : parser.header_state <;> rw [hcase] at hofOther hgeneral hstate <;> try cases hofOther
    all_goals
      rw [if_neg (by decide)] at hstate
      subst hstate
      exact hgo _ rfl hfalse (.other hlength hcoding (htallies.congr rfl rfl rfl) rfl
        fun hname => by first | rfl | exact hgeneral hname)

end lines

section trailers

variable {place after : Place} {wire : WireRequest} {received : Received} {actions : List Action}

/-- Behind the last chunk nothing but the end of the message makes a difference to it. -/
inductive AfterTrailer (wire : WireRequest) : Place → Heard → Prop
  | complete : AfterTrailer wire .idle { requests := [wire] }
  | trailer {place : Place} (hplace : place ∈ trailerPlaces) : AfterTrailer wire place { current := .trailers wire }
  | body : AfterTrailer wire (.headers true) { current := .body wire }
  | line : AfterTrailer wire (.headers true) { current := .trailers wire }

theorem HeaderLine.trailer (hline : HeaderLine true actions after)
    (hreceived : received = .body wire ∨ received = .trailers wire) (ch : UInt8) :
    Told received ch {} actions (AfterTrailer wire after) := by
  cases hline with
  | line =>
    obtain rfl | rfl := hreceived
    · exact ⟨_, _, rfl, rfl, .body⟩
    · exact ⟨_, _, rfl, rfl, .line⟩
  | field => obtain rfl | rfl := hreceived <;> exact ⟨_, _, rfl, rfl, .trailer (by decide)⟩
  | trailersComplete => obtain rfl | rfl := hreceived <;> exact ⟨_, _, rfl, rfl, .complete⟩

theorem Moves.trailer (hmoves : Moves place actions after) (hplace : place ∈ trailerPlaces) (wire : WireRequest)
    (ch : UInt8) : Told (.trailers wire) ch place.start actions (AfterTrailer wire after) := by
  simp only [trailerPlaces, List.mem_cons, List.not_mem_nil, or_false] at hplace
  rcases hplace with rfl | rfl | rfl | rfl <;> cases hmoves
  case inr.inr.inr.lineDone hline => exact hline.trailer (.inr rfl) ch
  case inr.inl.valueEmpty hline => exact Told.acts rfl ((hline.trailer (.inr rfl) ch).behind rfl)
  all_goals exact ⟨_, _, rfl, rfl, .trailer (by decide)⟩

end trailers

section rounds

variable {parser : Parser} {ch : UInt8} {received : Received} {url name value : SharedString}
  {headers : List (SharedString × SharedString)}

theorem headers_trailing {trailing : Bool} (hplace : parser.place = .headers trailing) :
    parser.flags.F_TRAILING = trailing := by
  unfold Parser.place at hplace
  split at hplace <;> cases hplace <;> rfl

theorem AfterTrailer.frames {wire : WireRequest} {heard : Heard} (hframed : Framed wire)
    (hafter : AfterTrailer wire parser.place heard) : Frames parser heard := by
  generalize hplace : parser.place = place at hafter
  cases hafter with
  | complete =>
    refine ⟨.idle hplace, fun other hother => ?_⟩
    obtain rfl : other = wire := by simpa using hother
    exact hframed
  | trailer hmem => exact ⟨.trailer (hplace ▸ hmem) hframed, nofun⟩
  | body =>
    have htrailing := headers_trailing hplace
    exact ⟨.line (htrailing ▸ hplace) (.body htrailing hframed), nofun⟩
  | line =>
    have htrailing := headers_trailing hplace
    exact ⟨.line (htrailing ▸ hplace) (.trailers htrailing hframed), nofun⟩

theorem urlChar_tells {scan : Scan} (actions : List Action) (htallies : Tallies parser [])
    (hacts : actions.foldlM (Scan.act ch) scan = some { pending := some (.url, []) })
    (hheard : Heard.next { current := received } (.url [ch]) = some { current := .url url }) :
    Tells received ch scan ((parser.urlChar ch).after actions) := by
  unfold Parser.urlChar
  dsimp only
  split
  · exact Tells.refuse
  case isFalse hdead =>
    have hplace := (urlStates_spec { parser with state := parse_url_char parser.state ch }
      ((parse_url_char_mem parser.state ch).resolve_left hdead)).1
    have hevents : [ParserEvent.url [ch]].foldlM Heard.next { current := received } = some { current := .url url } := by
      simpa using hheard
    exact Tells.next _ hacts hevents (.url hplace (htallies.congr rfl rfl rfl))

theorem reqUrl_tells (hplace : parser.place = .url) (hfalse : parser.flags.F_TRAILING = false)
    (htallies : Tallies parser []) : Tells (.url url) ch parser.place.start (parser.reqUrl ch) := by
  have hend : ∀ after : Parser, after.place = .headers after.flags.F_TRAILING → after.flags = parser.flags →
      after.content_length = parser.content_length →
      Tells (.url url) ch parser.place.start ((Round.next after).after [.CALLBACK_DATA .url 0]) := by
    intro after hafter hflags hcontent
    rw [hplace]
    exact Tells.next _ rfl rfl
      (.line hafter (.url (hflags ▸ hfalse) (htallies.congr (by rw [hflags]) (by rw [hflags]) hcontent)))
  unfold Parser.reqUrl
  split
  · exact hend _ rfl rfl rfl
  split
  · split
    · exact hend _ rfl rfl rfl
    · exact hend _ rfl rfl rfl
  · rw [hplace]
    exact urlChar_tells [] htallies rfl rfl

theorem reqSchema_tells (hplace : parser.place = .url) (htallies : Tallies parser []) :
    Tells (.url url) ch parser.place.start (parser.reqSchema ch) := by
  unfold Parser.reqSchema
  split
  · exact Tells.refuse
  · rw [hplace]
    exact urlChar_tells [] htallies rfl rfl

theorem version_tells (hstate : parser.state ∈ Parser.versionStates) (hline : LineTold parser received) :
    Tells received ch {} (parser.switch ch []) := by
  have hgo : ∀ after : Parser, after.flags = parser.flags → after.content_length = parser.content_length →
      after.place = .headers after.flags.F_TRAILING → Tells received ch {} (.next after) :=
    fun after hflags hcontent hafter => Tells.go rfl (.line hafter (hline.congr hflags hcontent))
  have hconstant : ∀ (expected : UInt8) (state : State), state ∈ Parser.versionStates →
      Tells received ch {} (parser.constant ch expected state) := by
    intro expected state hafter
    unfold Parser.constant
    split
    · exact hgo _ rfl rfl (Parser.versionStates_spec (show ({ parser with state } : Parser).state ∈ Parser.versionStates from hafter)).1
    · exact Tells.refuse
  have hmem := hstate
  simp only [Parser.versionStates, List.mem_cons, List.not_mem_nil, or_false] at hmem
  rcases hmem with h | h | h | h | h | h | h | h | h | h | h | h <;> simp only [Parser.switch, h]
  · unfold Parser.reqHttpStart
    split_ifs
    · exact hgo _ rfl rfl (Parser.versionStates_spec hstate).1
    · exact hgo _ rfl rfl rfl
    · exact hgo _ rfl rfl rfl
    · exact Tells.refuse
  iterate 6 exact hconstant _ _ (by decide)
  · unfold Parser.reqHttpMajor
    split
    · exact hgo _ rfl rfl rfl
    · exact Tells.refuse
  · unfold Parser.reqHttpDot
    split
    · exact hgo _ rfl rfl rfl
    · exact Tells.refuse
  · unfold Parser.reqHttpMinor
    split
    · exact hgo _ rfl rfl rfl
    · exact Tells.refuse
  · unfold Parser.reqHttpEnd
    split_ifs
    · exact hgo _ rfl rfl rfl
    · exact hgo _ rfl rfl rfl
    · exact Tells.refuse
  · unfold Parser.reqLineAlmostDone
    split
    · exact hgo _ rfl rfl rfl
    · exact Tells.refuse

theorem nameState_not_zero (htoken : ∀ c ∈ name, TOKEN c ≠ 0) : 0 ∉ lowerName name := by
  intro hmem
  obtain ⟨c, hc, hzero⟩ := List.mem_map.mp hmem
  exact htoken c hc hzero

theorem nameState_lowerName (hname : name ≠ []) (ch : UInt8) :
    nameState (lowerName (name ++ [ch])) = nameStep (nameState (lowerName name)) (TOKEN ch) := by
  have hlower : lowerName name ≠ [] := fun h => hname (List.map_eq_nil_iff.mp h)
  rw [← nameState_concat hlower, lowerName, List.map_append]
  rfl

theorem headerField_tells (hstate : parser.state = .s_header_field) (hfalse : parser.flags.F_TRAILING = false)
    (hfield : parser.header_state.ofField = true) (htallies : Tallies parser headers) (hname : name ≠ [])
    (htoken : ∀ c ∈ name, TOKEN c ≠ 0) (hnameState : (parser.header_state, parser.index) = nameState (lowerName name)) :
    Tells (.field url headers name) ch { pending := some (.header_field, []) }
      (Parser.headerFieldLoop 0 parser [ch]) := by
  have hlower : lowerName name ≠ [] := fun h => hname (List.map_eq_nil_iff.mp h)
  simp only [Parser.headerFieldLoop, Parser.COUNT_HEADER_SIZE_eq]
  split
  case isTrue =>
    split
    case isFalse => exact Tells.refuse
    case isTrue =>
      have hnamed := nameState_iff hlower (nameState_not_zero htoken)
      rw [← hnameState] at hnamed
      obtain ⟨hlength, hcoding, hupgrade, hconnection⟩ := hnamed
      have hheard : [ParserEvent.headerField []].foldlM Heard.next { current := .field url headers name } =
          some { current := .field url headers name } := by
        simp [Heard.next]
      refine Tells.next [.CALLBACK_DATA .header_field 0] rfl hheard ?_
      exact .fieldEnd (congrArg _ hfalse) (htallies.congr rfl rfl rfl) ⟨hlength, hcoding, hupgrade, hconnection, hfield⟩
  case isFalse hch =>
    rw [Parser.headerFieldChar_eq hfield hch]
    have hheard : [ParserEvent.headerField [ch]].foldlM Heard.next { current := .field url headers name } =
        some { current := .field url headers (name ++ [ch]) } := rfl
    refine Tells.go hheard (.field (by simp [Parser.place, hstate, hfalse]) (htallies.congr rfl rfl rfl) (by simp) ?_ ?_)
    · intro c hc
      rw [List.mem_append, List.mem_singleton] at hc
      obtain hc | rfl := hc
      · exact htoken c hc
      · exact hch
    · rw [nameState_lowerName hname, ← hnameState]

theorem headerValue_tells (hfalse : parser.flags.F_TRAILING = false)
    (hvalue : parser.InValue false) (hread : ValueRead parser headers name value) :
    Tells (.value url headers name value) ch { pending := some (.header_value, []) }
      (Parser.headerValueLoop parser.header_state 0 parser [ch]) := by
  have hend : ∀ after : Parser, after.place = .valueEnd false → ValueRead after headers name value →
      Tells (.value url headers name value) ch { pending := some (.header_value, []) }
        ((Round.next after).after [.CALLBACK_DATA .header_value 0]) := by
    intro after hafter hafterRead
    have hheard : [ParserEvent.headerValue []].foldlM Heard.next { current := .value url headers name value } =
        some { current := .value url headers name value } := by
      simp [Heard.next]
    exact Tells.next [.CALLBACK_DATA .header_value 0] rfl hheard (.value (.inr hafter) hafterRead)
  simp only [Parser.headerValueLoop, Parser.COUNT_HEADER_SIZE_eq]
  split
  case isTrue => exact hend _ (congrArg _ hfalse) (hread.congr rfl rfl rfl rfl)
  split
  case isTrue => exact hend _ (congrArg _ hfalse) (hread.congr rfl rfl rfl rfl)
  split
  case isFalse => exact Tells.refuse
  case isTrue =>
  obtain ⟨after, hchar, hafter⟩ | ⟨errno, after, hchar⟩ := Parser.headerValueChar_spec ch hvalue <;> rw [hchar]
  · have hheard : [ParserEvent.headerValue [ch]].foldlM Heard.next { current := .value url headers name value } =
        some { current := .value url headers name (value ++ [ch]) } := rfl
    have hplace : ({ after with nread := (after.nread + (0 + 1 - 1)) % 2 ^ 32 } : Parser).place = .value false :=
      hafter.place
    exact Tells.go hheard (.value (.inl hplace) ((hread.char hchar).congr rfl rfl rfl rfl))
  · exact Tells.refuse

/-- The states in the middle of chunks -/
def chunkStates : List State :=
  [.s_chunk_size_start, .s_chunk_size, .s_chunk_parameters, .s_chunk_size_almost_done, .s_chunk_data,
    .s_chunk_data_almost_done, .s_chunk_data_done]

/-- What is kept in the middle of a body -/
def BodyTold (parser : Parser) (wire : WireRequest) : Prop :=
  ∀ body : SharedString, (parser.state = .s_body_identity → body.length = wire.body.length + parser.content_length) →
    Framed { wire with body }

theorem bodyIdentity_tells {wire : WireRequest} (hstate : parser.state = .s_body_identity) (hbody : BodyTold parser wire) :
    Tells (.body wire) ch {} (parser.bodyIdentity 1) := by
  unfold Parser.bodyIdentity
  dsimp only
  split
  case isFalse => exact Tells.fail
  case isTrue hlength =>
  have hread : min parser.content_length 1 = 1 := by omega
  rw [hread]
  split
  case isTrue hzero =>
    refine Tells.complete rfl rfl (hbody _ fun _ => ?_) fun after hafter => ?_
    · simp
      omega
    · split at hafter <;> obtain hafter | hafter := hafter <;> cases hafter <;> exact newMessage_place _
  case isFalse hmore =>
    refine Tells.next [.MARK .body] rfl rfl (.body (by simp [Parser.place, hstate]) fun body hafter => ?_)
    refine hbody body fun _ => (hafter hstate).trans ?_
    simp
    omega

theorem chunkData_tells {wire : WireRequest} (hstate : parser.state = .s_chunk_data)
    (hall : ∀ body, Framed { wire with body }) : Tells (.body wire) ch {} (parser.chunkData 1) := by
  unfold Parser.chunkData
  dsimp only
  split
  case isFalse => exact Tells.fail
  case isTrue hlength =>
  have hread : min parser.content_length 1 = 1 := by omega
  rw [hread]
  split
  · exact Tells.next [.MARK .body] rfl rfl (.body (by simp [Parser.place]) fun body _ => hall body)
  · exact Tells.next [.MARK .body] rfl rfl (.body (by simp [Parser.place, hstate]) fun body _ => hall body)

/-- In the middle of chunks nothing is kept of their length. -/
theorem chunk_tells {wire : WireRequest} (hstate : parser.state ∈ chunkStates) (hall : ∀ body, Framed { wire with body }) :
    Tells (.body wire) ch {} (parser.switch ch []) := by
  have hgo : ∀ after : Parser, after.place = .chunk → Tells (.body wire) ch {} (.next after) :=
    fun after hplace => Tells.go rfl (.body (by simp [hplace]) fun body _ => hall body)
  have hskip : ∀ after : Parser, after.place = .chunk ∨ after.place = .data →
      Tells (.body wire) ch {} ((Round.next after).after [.CALLBACK_NOTIFY .skip]) := by
    intro after hplace
    exact Tells.next _ rfl rfl (.body (by obtain hplace | hplace := hplace <;> simp [hplace]) fun body _ => hall body)
  simp only [chunkStates, List.mem_cons, List.not_mem_nil, or_false] at hstate
  rcases hstate with h | h | h | h | h | h | h <;> simp only [Parser.switch, h]
  · unfold Parser.chunkSizeStart
    split
    · split
      · exact hgo _ rfl
      · exact Tells.refuse
    · exact Tells.fail
  · unfold Parser.chunkSize
    split
    case isFalse => exact Tells.fail
    split
    case isTrue => exact hgo _ rfl
    split
    · dsimp only
      split
      · exact Tells.refuse
      · exact hgo _ (by simp [Parser.place, h])
    · split
      · exact hgo _ rfl
      · exact Tells.refuse
  · unfold Parser.chunkParameters
    split
    · split
      · exact hgo _ rfl
      · exact hgo _ (by simp [Parser.place, h])
    · exact Tells.fail
  · unfold Parser.chunkSizeAlmostDone
    split
    case isFalse => exact Tells.fail
    split
    case isFalse => exact Tells.refuse
    dsimp only
    split
    · exact Tells.next _ rfl rfl (.line rfl (.body rfl (hall wire.body)))
    · exact hskip _ (.inr rfl)
  · exact chunkData_tells h hall
  · unfold Parser.chunkDataAlmostDone
    split
    case isFalse => exact Tells.fail
    split
    case isFalse => exact Tells.refuse
    exact Tells.next _ rfl rfl (.body (by simp [Parser.place]) fun body _ => hall body)
  · unfold Parser.chunkDataDone
    split
    case isFalse => exact Tells.fail
    split
    case isFalse => exact Tells.refuse
    exact hskip _ (.inl rfl)

theorem Announced.congr_nread (hannounced : Announced parser received) (nread : Nat) :
    Announced { parser with nread } received := by
  cases hannounced with
  | idle hplace => exact .idle hplace
  | begun hplace htallies => exact .begun hplace (htallies.congr rfl rfl rfl)
  | url hplace htallies => exact .url hplace (htallies.congr rfl rfl rfl)
  | line hplace hline => exact .line hplace (hline.congr rfl rfl)
  | field hplace htallies hname htoken hstate => exact .field hplace (htallies.congr rfl rfl rfl) hname htoken hstate
  | fieldEnd hplace htallies hnamed =>
    exact .fieldEnd hplace (htallies.congr rfl rfl rfl) hnamed
  | value hplace hread => exact .value hplace (hread.congr rfl rfl rfl rfl)
  | trailer hplace hframed => exact .trailer hplace hframed
  | body hplace hframed => exact .body hplace hframed

theorem startReq_tells (hidle : parser.place = .idle) : Tells .idle ch {} (parser.startReq ch) := by
  unfold Parser.startReq
  split
  · exact Tells.go rfl (.idle hidle)
  dsimp only
  split
  · split
    · exact Tells.next _ rfl rfl (.begun rfl (.nothing rfl rfl))
    · exact Tells.refuse
  · exact Tells.refuse

theorem reqMethod_tells (hstate : parser.state = .s_req_method)
    (htallies : Tallies parser []) : Tells .begun ch {} (parser.reqMethod ch) := by
  have hgo : ∀ after : Parser, after.place = .begun → after.flags = parser.flags →
      after.content_length = parser.content_length → Tells .begun ch {} (.next after) :=
    fun after hafter hflags hcontent =>
      Tells.go rfl (.begun hafter (htallies.congr (by rw [hflags]) (by rw [hflags]) hcontent))
  unfold Parser.reqMethod
  split
  · exact Tells.refuse
  split
  · exact Tells.fail
  split_ifs
  · exact hgo _ rfl rfl rfl
  · exact hgo _ (by simp [Parser.place, hstate]) rfl rfl
  · split
    · exact hgo _ (by simp [Parser.place, hstate]) rfl rfl
    · exact Tells.refuse
  · exact Tells.refuse

theorem reqSpacesBeforeUrl_tells (hbegun : parser.place = .begun) (htallies : Tallies parser []) :
    Tells .begun ch {} (parser.reqSpacesBeforeUrl ch) := by
  unfold Parser.reqSpacesBeforeUrl
  split
  · exact Tells.go rfl (.begun hbegun htallies)
  dsimp only
  split
  · exact urlChar_tells [.MARK .url] (htallies.congr rfl rfl rfl) rfl rfl
  · exact urlChar_tells [.MARK .url] htallies rfl rfl

/-- A header without a value announces nothing, and it must not be a length. -/
theorem headerValueDiscardLws_tells (hfalse : parser.flags.F_TRAILING = false) (htallies : Tallies parser headers)
    (hnamed : Named parser.header_state name) :
    Tells (.field url headers name) ch {} (parser.headerValueDiscardLws ch) := by
  unfold Parser.headerValueDiscardLws
  split
  · exact Tells.go rfl (.fieldEnd (congrArg _ hfalse) (htallies.congr rfl rfl rfl) hnamed)
  split
  · exact Tells.refuse
  case isFalse hnoLength =>
    have hempty : Tallies parser (headers ++ [(name, [])]) := by
      by_cases hname : lowerName name = text "transfer-encoding"
      · exact htallies.notChunked hname nofun
      · exact htallies.other (fun h => hnoLength (hnamed.length.mpr h)) hname
    have hfinished : Tallies parser.headerFinished (headers ++ [(name, [])]) := by
      refine hempty.finished fun h => ?_
      have hfield := hnamed.field
      rw [h] at hfield
      cases hfield
    have hline : LineTold parser.headerFinished (.value url headers name []) :=
      .value (Parser.headerFinished_trailing.trans hfalse) hfinished
    exact Tells.acts [.MARK .header_value, .CALLBACK_DATA .header_value 0] rfl
      (Tells.behind rfl (headerFieldStart_tells hline))

theorem headerValueLws_tells (hfalse : parser.flags.F_TRAILING = false) (hread : ValueRead parser headers name value) :
    Tells (.value url headers name value) ch {} (parser.headerValueLws ch) := by
  unfold Parser.headerValueLws
  split
  case isTrue hblank => exact headerValueStart_folded_tells hfalse hblank hread rfl
  case isFalse =>
    exact headerFieldStart_tells (.value (Parser.headerFinished_trailing.trans hfalse) hread.finished)

theorem fieldEnd_tells (hin : parser.place = .fieldEnd false) (hinvariant : parser.StateInvariant)
    (htallies : Tallies parser headers) (hnamed : Named parser.header_state name) :
    Tells (.field url headers name) ch {} (parser.switch ch []) := by
  cases hstate : parser.state <;>
    simp only [Parser.place, hstate, reduceCtorEq, Place.fieldEnd.injEq] at hin <;>
    simp only [Parser.switch, hstate]
  case s_header_value_discard_ws =>
    have hgo : ∀ after : Parser, after.place = .fieldEnd after.flags.F_TRAILING → after.flags = parser.flags →
        after.content_length = parser.content_length → after.header_state = parser.header_state →
        Tells (.field url headers name) ch {} (.next after) := by
      intro after hafter hflags hcontent hheader
      refine Tells.go rfl (.fieldEnd (by rw [hafter, hflags, hin]) ?_ (hheader ▸ hnamed))
      exact htallies.congr (by rw [hflags]) (by rw [hflags]) hcontent
    unfold Parser.headerValueDiscardWs
    split_ifs
    · exact hgo _ (by simp [Parser.place, hstate]) rfl rfl rfl
    · exact hgo _ rfl rfl rfl rfl
    · exact hgo _ rfl rfl rfl rfl
    · exact headerValueStart_tells hin htallies hnamed
  case s_header_value_discard_ws_almost_done =>
    unfold Parser.headerValueDiscardWsAlmostDone
    split
    · exact Tells.go rfl (.fieldEnd (congrArg _ hin) (htallies.congr rfl rfl rfl) hnamed)
    · exact Tells.refuse
  case s_header_value_discard_lws => exact headerValueDiscardLws_tells hin htallies hnamed
  case s_header_value_start =>
    unfold Parser.StateInvariant at hinvariant
    rw [hstate] at hinvariant
    exact hinvariant.elim

theorem switch_tells (hplace : parser.place ∉ trailerPlaces) (hsane : parser.Sane)
    (hinvariant : parser.state ≠ .s_chunk_size_start → parser.StateInvariant)
    (hannounced : Announced parser received) : Tells received ch parser.place.start (parser.switch ch []) := by
  cases hannounced with
  | idle hidle =>
    rw [hidle]
    cases hstate : parser.state <;> simp only [Parser.place, hstate, reduceCtorEq] at hidle <;>
      simp only [Parser.switch, hstate]
    case s_start_req => exact startReq_tells (by simp [Parser.place, hstate])
    case s_dead =>
      split
      · exact Tells.go rfl (.idle (by simp [Parser.place, hstate]))
      · exact Tells.refuse
    all_goals
      simp only [Parser.StateInvariant, hstate] at hinvariant
      exact (hinvariant (by decide)).elim
  | begun hbegun htallies =>
    rw [hbegun]
    cases hstate : parser.state <;> simp only [Parser.place, hstate, reduceCtorEq] at hbegun <;>
      simp only [Parser.switch, hstate]
    case s_req_method => exact reqMethod_tells hstate htallies
    case s_req_spaces_before_url => exact reqSpacesBeforeUrl_tells (by simp [Parser.place, hstate]) htallies
  | url hurl htallies =>
    have hstates : parser.state ∈ urlStates := by
      cases hstate : parser.state <;> simp only [Parser.place, hstate, reduceCtorEq] at hurl <;> simp [urlStates]
    have hnotStart : parser.state ≠ .s_chunk_size_start := fun h => absurd hstates (by rw [h]; decide)
    have hfalse := (urlStates_spec parser hstates).2.mp (hinvariant hnotStart)
    simp only [urlStates, List.mem_cons, List.not_mem_nil, or_false] at hstates
    rcases hstates with h | h | h | h | h | h | h | h | h | h | h <;> simp only [Parser.switch, h] <;>
      first | exact reqSchema_tells hurl htallies | exact reqUrl_tells hurl hfalse htallies
  | line hheaders hline =>
    have hstart : parser.place.start = {} := by
      rw [hheaders]
      rfl
    rw [hstart]
    by_cases hversion : parser.state ∈ Parser.versionStates
    · exact version_tells hversion hline
    cases hstate : parser.state <;> simp only [Parser.place, hstate, reduceCtorEq] at hheaders
    case s_header_field_start =>
      simp only [Parser.switch, hstate]
      exact headerFieldStart_tells hline
    case s_headers_almost_done =>
      simp only [Parser.switch, hstate]
      exact headersAlmostDone_tells hline
    all_goals exact absurd hstate fun h => hversion (by rw [h]; decide)
  | field hin htallies hname htoken hnameState =>
    rw [hin]
    cases hstate : parser.state <;> simp only [Parser.place, hstate, reduceCtorEq, Place.field.injEq] at hin
    simp only [Parser.StateInvariant, hstate] at hinvariant
    simp only [Parser.switch, hstate]
    exact headerField_tells hstate hin (hinvariant (by decide)) htallies hname htoken hnameState
  | fieldEnd hin htallies hnamed =>
    have hnotStart : parser.state ≠ .s_chunk_size_start := fun h => by simp [Parser.place, h] at hin
    have hstart : parser.place.start = {} := by
      rw [hin]
      rfl
    rw [hstart]
    exact fieldEnd_tells hin (hinvariant hnotStart) htallies hnamed
  | value hin hread =>
    cases hstate : parser.state <;>
      simp only [Parser.place, hstate, reduceCtorEq, or_false, false_or, Place.value.injEq, Place.valueEnd.injEq] at hin
    case s_header_value =>
      simp only [Parser.StateInvariant, hstate] at hinvariant
      simp only [Parser.switch, hstate, Parser.place]
      exact headerValue_tells hin ⟨hsane, hstate, hin, hinvariant (by decide)⟩ hread
    case s_header_almost_done =>
      simp only [Parser.switch, hstate, Parser.place]
      unfold Parser.headerAlmostDone
      split
      · exact Tells.go rfl (.value (.inr (congrArg _ hin)) (hread.congr rfl rfl rfl rfl))
      · exact Tells.refuse
    case s_header_value_lws =>
      simp only [Parser.switch, hstate, Parser.place]
      exact headerValueLws_tells hin hread
  | trailer hmem => exact absurd hmem hplace
  | body hmem hframed =>
    have hstart : parser.place.start = {} := by
      simp only [List.mem_cons, List.not_mem_nil, or_false] at hmem
      rcases hmem with h | h | h <;> rw [h] <;> rfl
    rw [hstart]
    by_cases hidentity : parser.state = .s_body_identity
    · simp only [Parser.switch, hidentity]
      exact bodyIdentity_tells hidentity hframed
    · refine chunk_tells ?_ fun body => hframed body fun h => absurd h hidentity
      cases hstate : parser.state <;> simp [Parser.place, hstate] at hmem hidentity <;> decide

/-- What a character tells is framed by what the headers announce. -/
theorem round_tells (hvalid : parser.Valid) (hannounced : Announced parser received) (ch : UInt8) :
    Tells received ch parser.place.start (parser.round ch []) := by
  by_cases hplace : parser.place ∈ trailerPlaces
  · obtain ⟨wire, rfl, hframed⟩ : ∃ wire, received = .trailers wire ∧ Framed wire := by
      cases hannounced with
      | trailer _ hframed => exact ⟨_, rfl, hframed⟩
      | idle h | begun h | url h | line h | field h | fieldEnd h =>
        rw [h] at hplace
        simp [trailerPlaces] at hplace
      | value h => obtain h | h := h <;> rw [h] at hplace <;> exact absurd hplace (by decide)
      | body h =>
        simp only [List.mem_cons, List.not_mem_nil, or_false] at h
        rcases h with h | h | h <;> rw [h] at hplace <;> exact absurd hplace (by decide)
    intro after hending
    have htold : ∀ next : Parser, Moves parser.place (parser.round ch []).actions next.place →
        Told (.trailers wire) ch parser.place.start (parser.round ch []).actions (Frames next) := by
      intro next hmoves
      obtain ⟨done, heard, hdone, hheard, hafter⟩ := hmoves.trailer hplace wire ch
      exact ⟨done, heard, hdone, hheard, hafter.frames hframed⟩
    cases parser.round_spec ch hvalid with
    | next next hnext _ hmoves =>
      obtain hending | hending := hending <;> cases hnext.symm.trans hending
      exact htold _ hmoves
    | leave next hnext _ hmoves =>
      obtain hending | hending := hending <;> cases hnext.symm.trans hending
      exact htold _ hmoves
    | error errno next hnext => obtain hending | hending := hending <;> cases hnext.symm.trans hending
  · unfold Parser.round
    split
    · rw [Parser.COUNT_HEADER_SIZE_eq]
      refine switch_tells hplace hvalid.sane (fun hstart => ?_) (hannounced.congr_nread _)
      have hinvariant := hvalid.state
      unfold Parser.StateInvariant at hinvariant ⊢
      revert hinvariant
      dsimp only at hstart ⊢
      cases hcase : parser.state <;> first | exact id | exact absurd hcase hstart
    · exact switch_tells hplace hvalid.sane (fun _ => hvalid.state) hannounced

end rounds

end cpv.HttpParser
