import Cpv.HttpParser.Announced

namespace cpv.HttpParser

section runs

open Joins

theorem Heard.next_join {first second both : ParserEvent} (hjoin : join first second = some both) (heard : Heard) :
    heard.next both = heard.next first >>= fun after => after.next second := by
  obtain ⟨requests, received⟩ := heard
  cases first <;> cases second <;> cases hjoin <;> cases received <;> simp [Heard.next]

/-- What is heard does not depend on how data is cut into callbacks. -/
theorem foldlM_pushAll (acc events : List ParserEvent) (heard : Heard) :
    (pushAll acc events).reverse.foldlM Heard.next heard = (acc.reverse ++ events).foldlM Heard.next heard := by
  have hpush : ∀ (acc : List ParserEvent) (event : ParserEvent),
      (push acc event).reverse.foldlM Heard.next heard = (acc.reverse ++ [event]).foldlM Heard.next heard := by
    intro acc event
    cases acc with
    | nil => rfl
    | cons last values =>
      cases hjoin : join last event with
      | none => simp [push, hjoin]
      | some both =>
        have hboth : push (last :: values) event = both :: values := by simp [push, hjoin]
        rw [hboth, List.reverse_cons, List.reverse_cons, List.append_assoc, List.foldlM_append, List.foldlM_append]
        refine congrArg _ (funext fun after => ?_)
        simp [Heard.next_join hjoin]
  induction events generalizing acc with
  | nil => simp [pushAll]
  | cons event events ih =>
    have hsplit : pushAll acc (event :: events) = pushAll (push acc event) events := rfl
    rw [hsplit, ih, List.foldlM_append, hpush, ← List.foldlM_append]
    simp

theorem heard_of_pushAll {first second : List ParserEvent} (hsame : pushAll [] first = pushAll [] second) :
    first.foldlM Heard.next {} = second.foldlM Heard.next {} := by
  have hfirst := foldlM_pushAll [] first {}
  have hsecond := foldlM_pushAll [] second {}
  rw [hsame, hsecond] at hfirst
  exact hfirst.symm

/-- All callbacks come in order, and what is kept suits what was heard. -/
def Frame (parser : Parser) (events : List ParserEvent) : Prop :=
  ∃ heard, events.foldlM Heard.next {} = some heard ∧ Frames parser heard

theorem Heard.next_requests (heard : Heard) (event : ParserEvent) (requests : List WireRequest) :
    Heard.next { heard with requests := requests ++ heard.requests } event =
      (heard.next event).map fun after => { after with requests := requests ++ after.requests } := by
  obtain ⟨earlier, received⟩ := heard
  cases event <;> cases received <;> simp [Heard.next]

/-- The requests that were heard before make no difference. -/
theorem foldlM_requests {events : List ParserEvent} {heard final : Heard} (requests : List WireRequest)
    (hheard : events.foldlM Heard.next heard = some final) :
    events.foldlM Heard.next { heard with requests := requests ++ heard.requests } =
      some { final with requests := requests ++ final.requests } := by
  induction events generalizing heard with
  | nil =>
    cases hheard
    rfl
  | cons event events ih =>
    rw [List.foldlM_cons] at hheard ⊢
    obtain ⟨after, hafter, hrest⟩ := Option.bind_eq_some_iff.mp hheard
    rw [Heard.next_requests, hafter]
    exact ih hrest

theorem mem_requests {events : List ParserEvent} {heard final : Heard}
    (hheard : events.foldlM Heard.next heard = some final) {wire : WireRequest} (hwire : wire ∈ heard.requests) :
    wire ∈ final.requests := by
  obtain ⟨requests, received⟩ := heard
  induction events generalizing requests received with
  | nil =>
    cases hheard
    exact hwire
  | cons event events ih =>
    rw [List.foldlM_cons] at hheard
    obtain ⟨⟨more, after⟩, hafter, hrest⟩ := Option.bind_eq_some_iff.mp hheard
    refine ih more after hrest ?_
    cases event <;> cases received <;> cases hafter <;> first | exact hwire | exact List.mem_append_left _ hwire

variable {parser after : Parser} {ch : UInt8} {scan done : Scan} {before : List ParserEvent}

/-- One character keeps what was told up to it framed. -/
theorem Frame.step (hframe : Frame parser (before ++ scan.flush)) (hvalid : parser.Valid) (hfits : scan.Fits parser.place)
    (hending : (parser.round ch []).ending = .next after 0 ∨ (parser.round ch []).ending = .leave after 0)
    (hmoves : Moves parser.place (parser.round ch []).actions after.place)
    (hacts : (parser.round ch []).actions.foldlM (Scan.act ch) scan = some done) :
    Frame after (before ++ (done.advance ch).flush) := by
  obtain ⟨⟨requests, received⟩, hheard, hannounced, hframed⟩ := hframe
  obtain ⟨start, heard, hstart, hstartHeard, hafter, hmore⟩ := round_tells hvalid hannounced ch after hending
  have hflush := (hmoves.resumes hfits (pushAll [] before) hacts hstart).flush ch
  simp only [← pushAll_append] at hflush
  have hboth := foldlM_requests requests hstartHeard
  simp only [List.append_nil] at hboth
  refine ⟨{ heard with requests := requests ++ heard.requests }, (heard_of_pushAll hflush).symm.trans ?_, hafter, ?_⟩
  · rw [List.foldlM_append, hheard]
    exact hboth
  · intro wire hwire
    obtain hwire | hwire := List.mem_append.mp hwire
    · exact hframed wire hwire
    · exact hmore wire hwire

/-- What is marked at the beginning of a buffer goes on with what was heard last. -/
theorem Frame.start (hframe : Frame parser before) : Frame parser (before ++ parser.place.start.flush) := by
  obtain ⟨⟨requests, received⟩, hheard, hannounced, hframed⟩ := hframe
  refine ⟨{ requests, current := received }, ?_, hannounced, hframed⟩
  rw [List.foldlM_append, hheard]
  show parser.place.start.flush.foldlM Heard.next { requests, current := received } = _
  cases hannounced with
  | idle h | begun h | line h | fieldEnd h =>
    rw [h]
    rfl
  | url h | field h =>
    rw [h]
    simp [Place.start, Place.marked, Scan.flush, Data.event, Heard.next]
  | value h =>
    obtain h | h := h <;> rw [h] <;> simp [Place.start, Place.marked, Scan.flush, Data.event, Heard.next]
  | trailer h =>
    simp only [trailerPlaces, List.mem_cons, List.not_mem_nil, or_false] at h
    rcases h with h | h | h | h <;> rw [h] <;> rfl
  | body h =>
    simp only [List.mem_cons, List.not_mem_nil, or_false] at h
    rcases h with h | h | h <;> rw [h] <;> rfl

/-- An error completes no request. -/
theorem Frame.refuse {place : Place} {actions : List Action} (hframe : Frame parser (before ++ scan.flush))
    (hrefuses : Refuses place actions) (hfits : scan.Fits place) (hacts : actions.foldlM (Scan.act ch) scan = some done)
    {heard : Heard} (hheard : (before ++ done.callbacks).foldlM Heard.next {} = some heard) :
    ∀ wire ∈ heard.requests, Framed wire := by
  obtain ⟨final, hfinal, -, hframed⟩ := hframe
  obtain ⟨callbacks, pending⟩ := scan
  -- what is marked may be left out
  have hcallbacks : ∀ heard : Heard, (before ++ callbacks).foldlM Heard.next {} = some heard →
      ∀ wire ∈ heard.requests, Framed wire := by
    intro heard hheard wire hwire
    rw [Scan.flush, ← List.append_assoc, List.foldlM_append, hheard] at hfinal
    exact hframed wire (mem_requests hfinal hwire)
  cases hrefuses with
  | nothing =>
    cases hacts
    exact hcallbacks heard hheard
  | url | value | valueFolded =>
    cases hfits
    cases hacts
    exact hcallbacks heard hheard
  | valueEmpty =>
    cases hfits
    cases hacts
    have hlast : (before ++ (callbacks ++ [ParserEvent.headerValue []])).foldlM Heard.next {} = some heard := hheard
    rw [← List.append_assoc, List.foldlM_append] at hlast
    obtain ⟨⟨requests, received⟩, hmiddle, hnext⟩ := Option.bind_eq_some_iff.mp hlast
    have hsame : heard.requests = requests := by
      cases received <;> cases hnext <;> rfl
    rw [hsame]
    exact hcallbacks _ hmiddle

/-- The requests that are heard whole are framed, also those in front of an error. -/
theorem Scanned.framed {data : SharedString} {outcome : Outcome} (hscanned : Scanned parser scan data outcome)
    (hvalid : parser.Valid) (hfits : scan.Fits parser.place) (hframe : Frame parser (before ++ scan.flush))
    {heard : Heard} (hheard : (before ++ outcome.callbacks).foldlM Heard.next {} = some heard) :
    (∀ wire ∈ heard.requests, Framed wire) ∧
      ∀ after, outcome.result = .ok after → Frame after (before ++ outcome.callbacks) := by
  have hdone : ∀ {after : Parser} {events : List ParserEvent}, Frame after events →
      ∀ {heard : Heard}, events.foldlM Heard.next {} = some heard → ∀ wire ∈ heard.requests, Framed wire := by
    rintro after events ⟨other, hother, -, hframed⟩ heard hheard
    obtain rfl := Option.some.inj (hother.symm.trans hheard)
    exact hframed
  induction hscanned with
  | finish => exact ⟨hdone hframe hheard, fun after hok => by cases hok; exact hframe⟩
  | @next parser after scan done ch rest outcome hending hafter hmoves _ hacts hrest ih =>
    obtain ⟨_, hsame, hdoneFits⟩ := hmoves.act hfits ch
    obtain rfl := Option.some.inj (hacts.symm.trans hsame)
    exact ih hafter hdoneFits (hframe.step hvalid hfits (.inl hending) hmoves hacts) hheard
  | @leave parser after scan done ch rest hending hafter hmoves hleft hacts =>
    obtain ⟨_, hsame, hdoneFits⟩ := hmoves.act hfits ch
    obtain rfl := Option.some.inj (hacts.symm.trans hsame)
    have hafterFrame := hframe.step hvalid hfits (.inr hending) hmoves hacts
    have hpending : (done.advance ch).pending = none := by
      simp only [Parser.left, Bool.and_eq_true, decide_eq_true_eq] at hleft
      rw [hleft.2] at hdoneFits
      exact hdoneFits
    rw [Scan.flush, hpending, List.append_nil] at hafterFrame
    exact ⟨hdone hafterFrame hheard, fun after hok => by cases hok; exact hafterFrame⟩
  | error hending hrefuses hacts =>
    exact ⟨hframe.refuse hrefuses hfits hacts hheard, fun after hok => by cases hok⟩

end runs

end cpv.HttpParser
