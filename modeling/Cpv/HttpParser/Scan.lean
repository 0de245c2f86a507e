import Cpv.Core.Coalesce
import Cpv.HttpParser.Bytewise

namespace cpv.HttpParser

/-- What has been reported of a buffer, and the data that is marked: what its callback is going to report. -/
structure Scan where
  callbacks : List ParserEvent := []
  pending : Option (Data × SharedString) := none

namespace Scan

/-- Do something at a character. There is no result where another kind of data is marked, or where data would be reported
    in another order than it has been read. -/
def act (ch : UInt8) (scan : Scan) : Action → Option Scan
  | .MARK FOR =>
    match scan.pending with
    | none => some { scan with pending := some (FOR, []) }
    | some (marked, _) => if marked = FOR then some scan else none
  | .CALLBACK_DATA FOR stop =>
    match scan.pending with
    | none => if stop = 0 then some scan else none
    | some (marked, str) =>
      if marked = FOR ∧ stop ≤ 1 then
        some { callbacks := scan.callbacks ++ [FOR.event (str ++ [ch].take stop)] }
      else none
  | .CALLBACK_NOTIFY event =>
    match scan.pending with
    | none => some { scan with callbacks := scan.callbacks ++ [event] }
    | some _ => none

/-- The character belongs to the data that is marked. -/
def advance (ch : UInt8) (scan : Scan) : Scan :=
  { scan with pending := scan.pending.map fun (FOR, str) => (FOR, str ++ [ch]) }

/-- The callbacks with the one for the data that is marked -/
def flush (scan : Scan) : List ParserEvent :=
  scan.callbacks ++
    match scan.pending with
    | none => []
    | some (FOR, str) => [FOR.event str]

end Scan

/-- What is marked in a place. The body is marked with its first character. -/
def Place.marked : Place → Option Data
  | .url => some .url
  | .field _ => some .header_field
  | .value _ => some .header_value
  | _ => none

/-- The scan at the beginning of a buffer -/
def Place.start (place : Place) : Scan := { pending := place.marked.map fun FOR => (FOR, []) }

/-- The marks of an execution are those of a scan. -/
structure Execution.Shows (data : SharedString) (execution : Execution) (scan : Scan) : Prop where
  callbacks : execution.callbacks = scan.callbacks
  marks : match scan.pending with
    | none => execution.marks = fun _ => none
    | some (FOR, str) => ∃ mark, execution.marks = Function.update (fun _ => none) FOR (some mark) ∧
        data.slice? mark execution.p = some str

namespace Execution

variable {data : SharedString} {execution : Execution} {scan after : Scan} {ch : UInt8}

/-- A part of a buffer becomes longer by the character behind it. -/
theorem slice?_advance {mark p : Nat} {str : SharedString} (hslice : data.slice? mark p = some str) (hch : data[p]? = some ch) :
    data.slice? mark (p + 1) = some (str ++ [ch]) := by
  unfold List.slice? at hslice
  split at hslice
  case isTrue hrange =>
    obtain ⟨hlt, -⟩ := List.getElem?_eq_some_iff.mp hch
    rw [List.slice?_eq (by omega) (by omega), List.take_drop_concat hch hrange.1, ← Option.some.inj hslice]
  case isFalse => cases hslice

theorem Shows.act (hshows : execution.Shows data scan) (hch : data[execution.p]? = some ch) {action : Action}
    (hact : scan.act ch action = some after) :
    ∃ next, execution.act data action = some next ∧ next.Shows data after ∧ next.p = execution.p ∧
      next.parser = execution.parser := by
  obtain ⟨hlt, -⟩ := List.getElem?_eq_some_iff.mp hch
  obtain ⟨callbacks, pending⟩ := scan
  obtain ⟨hcallbacks, hmarks⟩ := hshows
  cases action with
  | CALLBACK_NOTIFY event =>
    cases pending with
    | none =>
      cases hact
      exact ⟨_, rfl, ⟨by simp [hcallbacks], hmarks⟩, rfl, rfl⟩
    | some marked => cases hact
  | MARK FOR =>
    cases pending with
    | none =>
      cases hact
      dsimp only at hmarks
      refine ⟨_, congrArg some (if_pos (by rw [hmarks])), ⟨hcallbacks, execution.p, by rw [hmarks], ?_⟩, rfl, rfl⟩
      rw [List.slice?_eq le_rfl hlt.le]
      simp
    | some marked =>
      obtain ⟨marked, str⟩ := marked
      obtain ⟨rfl, rfl⟩ : marked = FOR ∧ { callbacks, pending := some (marked, str) } = after := by
        simpa [Scan.act] using hact
      obtain ⟨mark, hmark, hslice⟩ := hmarks
      exact ⟨execution, congrArg some (if_neg (by simp [hmark])), ⟨hcallbacks, mark, hmark, hslice⟩, rfl, rfl⟩
  | CALLBACK_DATA FOR stop =>
    cases pending with
    | none =>
      obtain ⟨-, rfl⟩ : stop = 0 ∧ { callbacks, pending := none } = after := by simpa [Scan.act] using hact
      dsimp only at hmarks
      refine ⟨execution, ?_, ⟨hcallbacks, hmarks⟩, rfl, rfl⟩
      simp [Execution.act, hmarks]
    | some marked =>
      obtain ⟨marked, str⟩ := marked
      obtain ⟨⟨rfl, hstop⟩, rfl⟩ : (marked = FOR ∧ stop ≤ 1) ∧
          { callbacks := callbacks ++ [FOR.event (str ++ [ch].take stop)] } = after := by
        simpa [Scan.act] using hact
      obtain ⟨mark, hmark, hslice⟩ := hmarks
      have hreported : data.slice? mark (execution.p + stop) = some (str ++ [ch].take stop) := by
        obtain rfl | rfl : stop = 0 ∨ stop = 1 := by omega
        · simpa using hslice
        · exact slice?_advance hslice hch
      refine ⟨{ execution with
        callbacks := execution.callbacks ++ [marked.event (str ++ [ch].take stop)]
        marks := fun _ => none }, ?_, ⟨by simp [hcallbacks], rfl⟩, rfl, rfl⟩
      simp [Execution.act, hmark, hreported]

theorem Shows.acts {actions : List Action} (hshows : execution.Shows data scan) (hch : data[execution.p]? = some ch)
    (hact : actions.foldlM (Scan.act ch) scan = some after) :
    ∃ next, actions.foldlM (Execution.act data) execution = some next ∧ next.Shows data after ∧
      next.p = execution.p ∧ next.parser = execution.parser := by
  induction actions generalizing execution scan with
  | nil =>
    obtain rfl := Option.some.inj hact
    exact ⟨execution, rfl, hshows, rfl, rfl⟩
  | cons action actions ih =>
    rw [List.foldlM_cons] at hact
    obtain ⟨middle, hmiddle, hrest⟩ := Option.bind_eq_some_iff.mp hact
    obtain ⟨first, hfirst, hfirstShows, hp, hparser⟩ := hshows.act hch hmiddle
    obtain ⟨next, hnext, hnextShows, hnextP, hnextParser⟩ := ih hfirstShows (by rw [hp]; exact hch) hrest
    refine ⟨next, ?_, hnextShows, hnextP.trans hp, hnextParser.trans hparser⟩
    rw [List.foldlM_cons, hfirst]
    exact hnext

theorem Shows.advance (hshows : execution.Shows data scan) (hch : data[execution.p]? = some ch) (parser : Parser) :
    { execution with parser, p := execution.p + 1 }.Shows data (scan.advance ch) := by
  obtain ⟨callbacks, pending⟩ := scan
  obtain ⟨hcallbacks, hmarks⟩ := hshows
  refine ⟨hcallbacks, ?_⟩
  cases pending with
  | none => exact hmarks
  | some marked =>
    obtain ⟨mark, hmark, hslice⟩ := hmarks
    exact ⟨mark, hmark, slice?_advance hslice hch⟩

/-- At the end of a buffer the data that is marked is reported. -/
theorem Shows.leftover (hshows : execution.Shows data scan) :
    ∃ final, execution.leftover data = some final ∧ final.callbacks = scan.flush ∧ final.size = data.length ∧
      final.parser = execution.parser := by
  obtain ⟨callbacks, pending⟩ := scan
  obtain ⟨hcallbacks, hmarks⟩ := hshows
  unfold Execution.leftover
  cases pending with
  | none =>
    dsimp only at hmarks
    refine ⟨{ execution with size := data.length }, ?_, by simp [hcallbacks, Scan.flush], rfl, rfl⟩
    simp [Execution.act, hmarks, List.foldlM_cons]
  | some marked =>
    obtain ⟨marked, str⟩ := marked
    obtain ⟨mark, hmark, hslice⟩ := hmarks
    refine ⟨{ execution with
      callbacks := execution.callbacks ++ [marked.event str]
      marks := fun _ => none
      size := data.length }, ?_, by simp [hcallbacks, Scan.flush], rfl, rfl⟩
    cases marked <;> simp [Execution.act, hmark, hslice, List.foldlM_cons, Function.update]

end Execution

/-- The data that is marked in a place. That of a body may not be marked yet. -/
def Scan.Fits (scan : Scan) : Place → Prop
  | .url => ∃ str, scan.pending = some (.url, str)
  | .field _ => ∃ str, scan.pending = some (.header_field, str)
  | .value _ => ∃ str, scan.pending = some (.header_value, str)
  | .data | .dataEnd => scan.pending = none ∨ ∃ str, scan.pending = some (.body, str)
  | _ => scan.pending = none

theorem Place.start_fits (place : Place) : place.start.Fits place := by
  cases place <;> simp [Scan.Fits, Place.start, Place.marked]

theorem HeaderLine.act {trailing : Bool} {actions : List Action} {place : Place}
    (hline : HeaderLine trailing actions place) (callbacks : List ParserEvent) (ch : UInt8) :
    ∃ after, actions.foldlM (Scan.act ch) { callbacks } = some after ∧ (after.advance ch).Fits place := by
  cases hline with
  | complete hplace =>
    obtain rfl | rfl := hplace
    · exact ⟨_, rfl, rfl⟩
    · exact ⟨_, rfl, .inl rfl⟩
  | line => exact ⟨_, rfl, rfl⟩
  | field => exact ⟨_, rfl, _, rfl⟩
  | completeAll => exact ⟨_, rfl, rfl⟩
  | trailersComplete => exact ⟨_, rfl, rfl⟩

/-- What a character can bring about can be done with the marks of the place, and leaves those of the next one. -/
theorem Moves.act {before place : Place} {actions : List Action} {scan : Scan} (hmoves : Moves before actions place)
    (hfits : scan.Fits before) (ch : UInt8) :
    ∃ after, actions.foldlM (Scan.act ch) scan = some after ∧ (after.advance ch).Fits place := by
  obtain ⟨callbacks, pending⟩ := scan
  cases hmoves with
  | idle | begin | begun | blank | lineEnd | chunk =>
    cases hfits
    exact ⟨_, rfl, rfl⟩
  | urlBegin | valueBegin | valueFolded =>
    cases hfits
    exact ⟨_, rfl, _, rfl⟩
  | url | field | value =>
    obtain ⟨str, hpending⟩ := hfits
    cases hpending
    exact ⟨_, rfl, _, rfl⟩
  | urlEnd | fieldEnd | valueEnd =>
    obtain ⟨str, hpending⟩ := hfits
    cases hpending
    exact ⟨_, rfl, rfl⟩
  | headers hline =>
    cases hfits
    exact hline.act callbacks ch
  | lineDone hline =>
    cases hfits
    exact hline.act callbacks ch
  | valueEmpty hline =>
    cases hfits
    exact hline.act _ ch
  | chunkNotify hplace =>
    cases hfits
    obtain rfl | rfl | rfl := hplace
    · exact ⟨_, rfl, rfl⟩
    · exact ⟨_, rfl, .inl rfl⟩
    · exact ⟨_, rfl, rfl⟩
  | data hplace =>
    obtain hpending | ⟨str, hpending⟩ := hfits <;> cases hpending <;> obtain rfl | rfl := hplace <;>
      exact ⟨_, rfl, .inr ⟨_, rfl⟩⟩
  | dataComplete =>
    obtain hpending | ⟨str, hpending⟩ := hfits <;> cases hpending <;> exact ⟨_, rfl, rfl⟩
  | dataEnd =>
    obtain hpending | ⟨str, hpending⟩ := hfits <;> cases hpending <;> exact ⟨_, rfl, rfl⟩

theorem Refuses.act {before : Place} {actions : List Action} {scan : Scan} (hrefuses : Refuses before actions)
    (hfits : scan.Fits before) (ch : UInt8) : ∃ after, actions.foldlM (Scan.act ch) scan = some after := by
  obtain ⟨callbacks, pending⟩ := scan
  cases hrefuses with
  | nothing => exact ⟨_, rfl⟩
  | url | value | valueFolded | valueEmpty =>
    cases hfits
    exact ⟨_, rfl⟩

/-- What a parser does with the characters of a buffer, from some marks on. Behind an error and behind the end of a run
    nothing that is marked is reported. -/
inductive Scanned : Parser → Scan → SharedString → Outcome → Prop
  | finish {parser : Parser} {scan : Scan} :
      Scanned parser scan [] { callbacks := scan.flush, size := 0, result := .ok parser }
  | next {parser after : Parser} {scan done : Scan} {ch : UInt8} {rest : SharedString} {outcome : Outcome}
      (hending : (parser.round ch []).ending = .next after 0) (hafter : after.Valid)
      (hmoves : Moves parser.place (parser.round ch []).actions after.place)
      (hleft : parser.left = false → after.left = false)
      (hacts : (parser.round ch []).actions.foldlM (Scan.act ch) scan = some done)
      (hrest : Scanned after (done.advance ch) rest outcome) :
      Scanned parser scan (ch :: rest) { outcome with size := outcome.size + 1 }
  | leave {parser after : Parser} {scan done : Scan} {ch : UInt8} {rest : SharedString}
      (hending : (parser.round ch []).ending = .leave after 0) (hafter : after.Valid)
      (hmoves : Moves parser.place (parser.round ch []).actions after.place) (hleft : after.left = true)
      (hacts : (parser.round ch []).actions.foldlM (Scan.act ch) scan = some done) :
      Scanned parser scan (ch :: rest) { callbacks := done.callbacks, size := 1, result := .ok after }
  | error {parser after : Parser} {scan done : Scan} {ch : UInt8} {rest : SharedString} {errno : http_errno}
      (hending : (parser.round ch []).ending = .error errno after 0)
      (hrefuses : Refuses parser.place (parser.round ch []).actions)
      (hacts : (parser.round ch []).actions.foldlM (Scan.act ch) scan = some done) :
      Scanned parser scan (ch :: rest) { callbacks := done.callbacks, size := 0, result := .error errno }

section scanned

variable {data : SharedString} {parser : Parser} {scan : Scan}

/-- A parser that has not met an error stays valid. -/
theorem Scanned.valid {outcome : Outcome} {after : Parser} (hscanned : Scanned parser scan data outcome)
    (hvalid : parser.Valid) (hok : outcome.result = .ok after) : after.Valid := by
  induction hscanned with
  | finish =>
    cases hok
    exact hvalid
  | next _ hafter _ _ _ _ ih => exact ih hafter hok
  | leave _ hafter =>
    cases hok
    exact hafter
  | error => cases hok

theorem Scanned.size_le {outcome : Outcome} (hscanned : Scanned parser scan data outcome) :
    outcome.size ≤ data.length := by
  induction hscanned with
  | finish => exact le_rfl
  | next _ _ _ _ _ _ ih => exact Nat.succ_le_succ ih
  | leave => exact Nat.succ_le_succ (Nat.zero_le _)
  | error => exact Nat.zero_le _

/-- A parser between two buffers: it is valid, or it has met an error. -/
def Parser.Sound (parser : Parser) : Prop := parser.http_errno = none → parser.Valid

end scanned

end cpv.HttpParser
