import Cpv.HttpParser.Scan

namespace cpv.HttpParser

open Joins

/-- Two callbacks for the same kind of data are one for all of it. -/
def joinEvents : ParserEvent → ParserEvent → Option ParserEvent
  | .url first, .url second => some (.url (first ++ second))
  | .headerField first, .headerField second => some (.headerField (first ++ second))
  | .headerValue first, .headerValue second => some (.headerValue (first ++ second))
  | .body first, .body second => some (.body (first ++ second))
  | _, _ => none

instance : Joins ParserEvent where
  join := joinEvents
  join_none := by
    intro before first second both hjoin hnone
    cases first <;> cases second <;> cases hjoin <;> cases before <;> first | rfl | cases hnone
  join_some := by
    intro before first second both joined hjoin hsome
    cases first <;> cases second <;> cases hjoin <;> cases before <;> cases hsome <;>
      exact ⟨_, rfl, by simp [joinEvents]⟩

theorem Data.join_event (FOR : Data) (first second : SharedString) :
    join (FOR.event first) (FOR.event second) = some (FOR.event (first ++ second)) := by
  cases FOR <;> rfl

/-- Data that is reported in two parts -/
theorem pushAll_event (acc callbacks : List ParserEvent) (FOR : Data) (first second : SharedString) :
    pushAll (pushAll acc (callbacks ++ [FOR.event first])) [FOR.event second] =
      pushAll acc (callbacks ++ [FOR.event (first ++ second)]) := by
  simp only [pushAll_append]
  exact push_push _ (FOR.join_event first second)

/-- A scan that goes on over the end of a buffer, and one that begins there. All that was reported before, and the data that
    was marked, is `acc` for the one that begins. -/
inductive Resumes (before acc : List ParserEvent) : Scan → Scan → Prop
  | joined {callbacks : List ParserEvent} {FOR : Data} {str : SharedString}
      (hacc : acc = pushAll before (callbacks ++ [FOR.event str])) :
      Resumes before acc { callbacks, pending := some (FOR, str) } { pending := some (FOR, []) }
  | apart {callbacks reported : List ParserEvent} {pending : Option (Data × SharedString)}
      (hacc : pushAll acc reported = pushAll before callbacks) :
      Resumes before acc { callbacks, pending } { callbacks := reported, pending }

section resumes

variable {before acc : List ParserEvent} {whole rest wholeAfter restAfter : Scan} {ch : UInt8}

theorem Resumes.act {action : Action} (hresumes : Resumes before acc whole rest)
    (hwhole : whole.act ch action = some wholeAfter) (hrest : rest.act ch action = some restAfter) :
    Resumes before acc wholeAfter restAfter := by
  cases hresumes with
  | @joined callbacks marked str hacc =>
    cases action with
    | CALLBACK_NOTIFY event => cases hwhole
    | MARK FOR =>
      obtain ⟨rfl, rfl⟩ : marked = FOR ∧ _ = wholeAfter := by simpa [Scan.act] using hwhole
      obtain rfl : _ = restAfter := by simpa [Scan.act] using hrest
      exact .joined hacc
    | CALLBACK_DATA FOR stop =>
      obtain ⟨⟨rfl, hstop⟩, rfl⟩ : (marked = FOR ∧ stop ≤ 1) ∧ _ = wholeAfter := by simpa [Scan.act] using hwhole
      obtain ⟨-, rfl⟩ : stop ≤ 1 ∧ _ = restAfter := by simpa [Scan.act] using hrest
      exact .apart (by rw [hacc]; exact pushAll_event _ _ _ _ _)
  | @apart callbacks reported pending hacc =>
    have hreport : ∀ event, pushAll acc (reported ++ [event]) = pushAll before (callbacks ++ [event]) := by
      intro event
      rw [pushAll_append, pushAll_append, hacc]
    cases action with
    | CALLBACK_NOTIFY event =>
      cases pending <;> cases hwhole
      cases hrest
      exact .apart (hreport event)
    | MARK FOR =>
      cases pending with
      | none =>
        cases hwhole
        cases hrest
        exact .apart hacc
      | some marked =>
        obtain ⟨rfl, rfl⟩ : marked.1 = FOR ∧ _ = wholeAfter := by simpa [Scan.act] using hwhole
        obtain rfl : _ = restAfter := by simpa [Scan.act] using hrest
        exact .apart hacc
    | CALLBACK_DATA FOR stop =>
      cases pending with
      | none =>
        obtain ⟨rfl, rfl⟩ : stop = 0 ∧ _ = wholeAfter := by simpa [Scan.act] using hwhole
        obtain rfl : _ = restAfter := by simpa [Scan.act] using hrest
        exact .apart hacc
      | some marked =>
        obtain ⟨⟨rfl, hstop⟩, rfl⟩ : (marked.1 = FOR ∧ stop ≤ 1) ∧ _ = wholeAfter := by simpa [Scan.act] using hwhole
        obtain ⟨-, rfl⟩ : stop ≤ 1 ∧ _ = restAfter := by simpa [Scan.act] using hrest
        exact .apart (hreport _)

theorem Resumes.acts {actions : List Action} (hresumes : Resumes before acc whole rest)
    (hwhole : actions.foldlM (Scan.act ch) whole = some wholeAfter)
    (hrest : actions.foldlM (Scan.act ch) rest = some restAfter) : Resumes before acc wholeAfter restAfter := by
  induction actions generalizing whole rest with
  | nil =>
    cases hwhole
    cases hrest
    exact hresumes
  | cons action actions ih =>
    rw [List.foldlM_cons] at hwhole hrest
    obtain ⟨wholeNext, hwholeNext, hwhole⟩ := Option.bind_eq_some_iff.mp hwhole
    obtain ⟨restNext, hrestNext, hrest⟩ := Option.bind_eq_some_iff.mp hrest
    exact ih (hresumes.act hwholeNext hrestNext) hwhole hrest

/-- At the first character of a buffer the data that was marked has been reported, and is marked again where it is not that
    of a body. -/
theorem Scan.Fits.resumes {place : Place} (hfits : whole.Fits place)
    (hbody : place = .data ∨ place = .dataEnd → whole.pending = none) (before : List ParserEvent) :
    Resumes before (pushAll before whole.flush) whole place.start := by
  obtain ⟨callbacks, pending⟩ := whole
  have hnone : pending = none →
      Resumes before (pushAll before (Scan.flush { callbacks, pending })) { callbacks, pending } {} := by
    intro hpending
    cases hpending
    exact .apart (by simp [Scan.flush, pushAll])
  cases place with
  | url | field | value =>
    obtain ⟨str, hpending⟩ := hfits
    cases hpending
    exact .joined rfl
  | data => exact hnone (hbody (.inl rfl))
  | dataEnd => exact hnone (hbody (.inr rfl))
  | _ => exact hnone hfits

theorem Moves.resumes {place after : Place} {actions : List Action} (hmoves : Moves place actions after)
    (hfits : whole.Fits place) (before : List ParserEvent)
    (hwhole : actions.foldlM (Scan.act ch) whole = some wholeAfter)
    (hrest : actions.foldlM (Scan.act ch) place.start = some restAfter) :
    Resumes before (pushAll before whole.flush) wholeAfter restAfter := by
  by_cases hbody : place = .data ∨ place = .dataEnd → whole.pending = none
  · exact (hfits.resumes hbody before).acts hwhole hrest
  · obtain ⟨hplace, hpending⟩ : (place = .data ∨ place = .dataEnd) ∧ whole.pending ≠ none := by simpa using hbody
    obtain ⟨callbacks, pending⟩ := whole
    obtain ⟨str, rfl⟩ : ∃ str, pending = some (.body, str) := by
      obtain rfl | rfl := hplace <;> exact hfits.resolve_left hpending
    -- the body is marked again with its next character, or reported without one
    obtain rfl | rfl := hplace <;> cases hmoves
    case data =>
      cases hwhole
      cases hrest
      exact .joined rfl
    case dataComplete =>
      have hmarked : ∀ {scan final : Scan} {str : SharedString}, scan.pending = some (.body, str) →
          [.MARK .body, .CALLBACK_DATA .body 1, .CALLBACK_NOTIFY .messageComplete].foldlM (Scan.act ch) scan = some final →
            [.CALLBACK_DATA .body 1, .CALLBACK_NOTIFY .messageComplete].foldlM (Scan.act ch) scan = some final := by
        intro scan final str hpending hacts
        simpa [List.foldlM_cons, Scan.act, hpending] using hacts
      exact Resumes.acts (.joined rfl) (hmarked rfl hwhole) (hmarked rfl hrest)
    case dataEnd =>
      cases hwhole
      cases hrest
      exact .apart (by simp [Scan.flush, pushAll])

/-- What is reported up to a character is the same whether a buffer began with it or not. -/
theorem Resumes.flush (hresumes : Resumes before acc whole rest) (ch : UInt8) :
    pushAll acc (rest.advance ch).flush = pushAll before (whole.advance ch).flush := by
  cases hresumes with
  | joined hacc =>
    rw [hacc]
    exact pushAll_event _ _ _ _ _
  | @apart callbacks reported pending hacc =>
    unfold Scan.flush
    rw [pushAll_append, pushAll_append]
    exact congrArg (pushAll · _) hacc

end resumes

/-- What a parser does with characters one by one, each of them a buffer of its own. The callbacks are those that were made
    before with the ones for the characters. They are not looked at behind an error. -/
def plain (parser : Parser) (acc : List ParserEvent) : SharedString → Option Outcome
  | [] => some { callbacks := acc, size := 0, result := .ok parser }
  | ch :: rest =>
    let round := parser.round ch []
    match round.actions.foldlM (Scan.act ch) parser.place.start with
    | none => none
    | some scan =>
      match round.ending with
      | .next after _ =>
        (plain after (pushAll acc (scan.advance ch).flush) rest).map fun outcome =>
          { outcome with size := outcome.size + 1 }
      | .leave after _ => some { callbacks := pushAll acc (scan.advance ch).flush, size := 1, result := .ok after }
      | .error errno _ _ => some { callbacks := [], size := 0, result := .error errno }
      | .failed => none

/-- The callbacks that were made before a buffer, and those of the buffer -/
structure Outcome.Joins (before : List ParserEvent) (outcome joined : Outcome) : Prop where
  size : outcome.size = joined.size
  result : outcome.result = joined.result
  callbacks : ∀ parser, outcome.result = .ok parser → pushAll before outcome.callbacks = joined.callbacks

section plain

variable {data : SharedString} {execution : Execution} {scan : Scan} {parser : Parser} {acc before : List ParserEvent}
  {ch : UInt8}

theorem plain_next {after : Parser} {scan : Scan} (hending : (parser.round ch []).ending = .next after 0)
    (hacts : (parser.round ch []).actions.foldlM (Scan.act ch) parser.place.start = some scan) (rest : SharedString) :
    plain parser acc (ch :: rest) =
      (plain after (pushAll acc (scan.advance ch).flush) rest).map fun outcome =>
        { outcome with size := outcome.size + 1 } := by
  simp only [plain, hacts, hending]

theorem plain_leave {after : Parser} {scan : Scan} (hending : (parser.round ch []).ending = .leave after 0)
    (hacts : (parser.round ch []).actions.foldlM (Scan.act ch) parser.place.start = some scan) (rest : SharedString) :
    plain parser acc (ch :: rest) =
      some { callbacks := pushAll acc (scan.advance ch).flush, size := 1, result := .ok after } := by
  simp only [plain, hacts, hending]

theorem plain_error {errno : http_errno} {after : Parser} {scan : Scan}
    (hending : (parser.round ch []).ending = .error errno after 0)
    (hacts : (parser.round ch []).actions.foldlM (Scan.act ch) parser.place.start = some scan) (rest : SharedString) :
    plain parser acc (ch :: rest) = some { callbacks := [], size := 0, result := .error errno } := by
  simp only [plain, hacts, hending]

/-- What marks show of some characters is what those come to one by one. -/
theorem Scanned.plain {outcome : Outcome} (hscanned : Scanned parser scan data outcome) (hfits : scan.Fits parser.place)
    (before : List ParserEvent) :
    ∃ joined, HttpParser.plain parser (pushAll before scan.flush) data = some joined ∧ outcome.Joins before joined := by
  induction hscanned with
  | finish => exact ⟨_, rfl, rfl, rfl, fun _ _ => rfl⟩
  | @next parser after scan done ch rest outcome hending hafter hmoves _ hacts hrest ih =>
    obtain ⟨start, hstart, -⟩ := hmoves.act (Place.start_fits _) ch
    obtain ⟨_, hdone, hdoneFits⟩ := hmoves.act hfits ch
    obtain rfl := Option.some.inj (hacts.symm.trans hdone)
    obtain ⟨joined, hjoined, hsize, hresult, hcallbacks⟩ := ih hdoneFits
    refine ⟨{ joined with size := joined.size + 1 }, ?_, congrArg (· + 1) hsize, hresult, hcallbacks⟩
    rw [plain_next hending hstart, (hmoves.resumes hfits before hacts hstart).flush, hjoined]
    rfl
  | @leave parser after scan done ch rest hending hafter hmoves hleft hacts =>
    obtain ⟨start, hstart, -⟩ := hmoves.act (Place.start_fits _) ch
    obtain ⟨_, hdone, hdoneFits⟩ := hmoves.act hfits ch
    obtain rfl := Option.some.inj (hacts.symm.trans hdone)
    have hidle : after.place = .idle := by
      simp only [Parser.left, Bool.and_eq_true, decide_eq_true_eq] at hleft
      exact hleft.2
    have hpending : (done.advance ch).pending = none := by
      rw [hidle] at hdoneFits
      exact hdoneFits
    refine ⟨_, plain_leave hending hstart rest, rfl, rfl, fun _ _ => ?_⟩
    rw [(hmoves.resumes hfits before hacts hstart).flush, Scan.flush, hpending, List.append_nil]
    rfl
  | error hending hrefuses hacts =>
    obtain ⟨start, hstart⟩ := hrefuses.act (Place.start_fits _) _
    refine ⟨_, plain_error hending hstart _, rfl, rfl, fun _ hok => ?_⟩
    cases hok

end plain

section keeps

variable {Kept : Parser → List ParserEvent → Prop} {Ended : Except http_errno Parser → List ParserEvent → Prop}

end keeps

end cpv.HttpParser
