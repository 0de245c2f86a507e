import Cpv.Core.Transducer
import Cpv.Utility.TimeUUID

namespace cpv

/-- Exception throws when two uuid is conflict, with its message -/
structure UUIDConflictException where
  message : SharedString

/-- The static variables of `makeTimeUUID` on a thread -/
structure TimeUUIDStatics where
  nodeId : BitVec 64 := 0
  lastTimestamp : BitVec 64 := 0
  clockId : BitVec 32 := 0

/-- Make a version 1 (date-time and MAC address) uuid. `random` is what `URandom` gives for the node id, and `now` what the
    system clock reads. -/
def makeTimeUUID (random : BitVec 64) (statics : TimeUUIDStatics) (now : TimePoint) :
    Except UUIDConflictException UUIDDataType × TimeUUIDStatics :=
  let statics := if statics.nodeId = 0 then { statics with nodeId := random } else statics
  let timeStamp := toTimeUUIDTimestamp now
  if timeStamp ≠ statics.lastTimestamp then
    (.ok (makeTimeUUIDOf timeStamp 0 statics.nodeId), { statics with lastTimestamp := timeStamp, clockId := 1 })
  else if statics.clockId > MaxClockId then
    (.error ⟨text "generate time uuid failed, clock id is exhausted in this 100 nanoseconds"⟩, statics)
  else
    (.ok (makeTimeUUIDOf timeStamp statics.clockId statics.nodeId), { statics with clockId := statics.clockId + 1 })

/-- The statics after calls with these readings of the clock -/
def staticsAfter (random : BitVec 64) (readings : List TimePoint) : TimeUUIDStatics :=
  (Transducer.run (makeTimeUUID random) {} readings).2

/-- The uuids that these calls returned -/
def returnedUUIDs (random : BitVec 64) (readings : List TimePoint) : List UUIDDataType :=
  (Transducer.run (makeTimeUUID random) {} readings).1.filterMap Except.toOption

/-- A call after others throws exactly where all uuids of its time stamp were returned before. -/
def ThrowsWhenExhausted (random : BitVec 64) (before : List TimePoint) (now : TimePoint) : Prop :=
  (makeTimeUUID random (staticsAfter random before) now).1 =
      .error ⟨text "generate time uuid failed, clock id is exhausted in this 100 nanoseconds"⟩ ↔
    ∀ clockId ≤ MaxClockId, makeTimeUUIDOf (toTimeUUIDTimestamp now) clockId random ∈ returnedUUIDs random before

/-- No uuid is returned twice, and the calls throw where there is no other one to return. -/
structure StaysUnique (random : BitVec 64) (readings : List TimePoint) : Prop where
  nodup : (returnedUUIDs random readings).Nodup
  conflict : ∀ before now after, readings = before ++ now :: after → ThrowsWhenExhausted random before now

/-- A time stamp that was read before is the one that was read last. -/
def NeverReturns (readings : List TimePoint) : Prop :=
  ∀ before now after, readings = before ++ now :: after →
    toTimeUUIDTimestamp now ∈ before.map toTimeUUIDTimestamp →
    (before.map toTimeUUIDTimestamp).getLast? = some (toTimeUUIDTimestamp now)

section Step

variable {random : BitVec 64}

theorem makeTimeUUIDOf_inj {timeStamp timeStamp' nodeId : BitVec 64} {clockId clockId' : BitVec 32}
    (hlt : timeStamp.toNat < 2 ^ 60) (hlt' : timeStamp'.toNat < 2 ^ 60) (hle : clockId ≤ MaxClockId)
    (hle' : clockId' ≤ MaxClockId)
    (hsame : makeTimeUUIDOf timeStamp clockId nodeId = makeTimeUUIDOf timeStamp' clockId' nodeId) :
    timeStamp = timeStamp' ∧ clockId = clockId' := by
  constructor
  · rw [← timeStampOfUUID_makeTimeUUIDOf hlt clockId nodeId, hsame, timeStampOfUUID_makeTimeUUIDOf hlt']
  · have hsecond := congrArg (fun uuid : UUIDDataType => uuid.2.toNat) hsame
    have hmax : MaxClockId.toNat = 2 ^ 14 - 1 := rfl
    simp only [toNat_snd_makeTimeUUIDOf] at hsecond
    rw [BitVec.le_def, hmax] at hle hle'
    exact BitVec.eq_of_toNat_eq (by omega)

theorem returnedUUIDs_concat (before : List TimePoint) (now : TimePoint) :
    returnedUUIDs random (before ++ [now]) =
      returnedUUIDs random before ++ (makeTimeUUID random (staticsAfter random before) now).1.toOption.toList := by
  have hone (outcome : Except UUIDConflictException UUIDDataType) :
      [outcome].filterMap Except.toOption = outcome.toOption.toList := by
    cases outcome <;> rfl
  unfold returnedUUIDs staticsAfter
  rw [Transducer.run_concat, List.filterMap_append, hone]

theorem staticsAfter_concat (before : List TimePoint) (now : TimePoint) :
    staticsAfter random (before ++ [now]) = (makeTimeUUID random (staticsAfter random before) now).2 :=
  Transducer.snd_run_concat ..

/-- The three things a call does -/
theorem makeTimeUUID_cases {statics : TimeUUIDStatics} (hnode : statics.nodeId = 0 ∨ statics.nodeId = random)
    (now : TimePoint) :
    (toTimeUUIDTimestamp now ≠ statics.lastTimestamp ∧
      makeTimeUUID random statics now = (.ok (makeTimeUUIDOf (toTimeUUIDTimestamp now) 0 random),
        { nodeId := random, lastTimestamp := toTimeUUIDTimestamp now, clockId := 1 })) ∨
    (toTimeUUIDTimestamp now = statics.lastTimestamp ∧ statics.clockId ≤ MaxClockId ∧
      makeTimeUUID random statics now = (.ok (makeTimeUUIDOf statics.lastTimestamp statics.clockId random),
        { nodeId := random, lastTimestamp := statics.lastTimestamp, clockId := statics.clockId + 1 })) ∨
    (toTimeUUIDTimestamp now = statics.lastTimestamp ∧ MaxClockId < statics.clockId ∧
      makeTimeUUID random statics now =
        (.error ⟨text "generate time uuid failed, clock id is exhausted in this 100 nanoseconds"⟩,
          { statics with nodeId := random })) := by
  have hstatics : (if statics.nodeId = 0 then { statics with nodeId := random } else statics) =
      { statics with nodeId := random } := by
    split
    · rfl
    · rename_i hne
      rw [← hnode.resolve_left hne]
  simp only [makeTimeUUID, hstatics]
  by_cases hnew : toTimeUUIDTimestamp now = statics.lastTimestamp
  · by_cases hexhausted : statics.clockId > MaxClockId
    · exact .inr (.inr ⟨hnew, hexhausted, by rw [if_neg (not_not.mpr hnew), if_pos hexhausted]⟩)
    · refine .inr (.inl ⟨hnew, BitVec.not_lt.mp hexhausted, ?_⟩)
      rw [if_neg (not_not.mpr hnew), if_neg hexhausted, hnew]
  · exact .inl ⟨hnew, by rw [if_pos hnew]⟩

/-- What the statics say of the uuids that were returned, where no time stamp came back: those of the last time stamp
    have the clock ids below the next one. -/
structure Remembers (random : BitVec 64) (readings : List TimePoint) (statics : TimeUUIDStatics)
    (uuids : List UUIDDataType) : Prop where
  nodeId : statics.nodeId = 0 ∨ statics.nodeId = random
  nodup : uuids.Nodup
  last : readings ≠ [] → (readings.map toTimeUUIDTimestamp).getLast? = some statics.lastTimestamp
  returned : ∀ uuid ∈ uuids, ∃ timeStamp ∈ readings.map toTimeUUIDTimestamp, ∃ clockId ≤ MaxClockId,
    uuid = makeTimeUUIDOf timeStamp clockId random ∧ (timeStamp = statics.lastTimestamp → clockId < statics.clockId)
  given : ∀ clockId < statics.clockId, makeTimeUUIDOf statics.lastTimestamp clockId random ∈ uuids

namespace Remembers

variable {readings : List TimePoint} {statics : TimeUUIDStatics} {uuids : List UUIDDataType}

theorem start : Remembers random [] {} [] where
  nodeId := .inl rfl
  nodup := .nil
  last := by simp
  returned := by simp
  given clockId hlt := absurd hlt (by simp)

/-- A uuid that was not returned, for its time stamp or for its clock id -/
theorem notMem (hstatics : Remembers random readings statics uuids) {now : TimePoint} {clockId : BitVec 32}
    (hle : clockId ≤ MaxClockId)
    (hnew : toTimeUUIDTimestamp now ∉ readings.map toTimeUUIDTimestamp ∨
      toTimeUUIDTimestamp now = statics.lastTimestamp ∧ statics.clockId ≤ clockId) :
    makeTimeUUIDOf (toTimeUUIDTimestamp now) clockId random ∉ uuids := by
  intro hmem
  obtain ⟨timeStamp, hread, clockId', hle', hsame, hbelow⟩ := hstatics.returned _ hmem
  obtain ⟨reading, hreading, rfl⟩ := List.mem_map.mp hread
  obtain ⟨hstamp, rfl⟩ := makeTimeUUIDOf_inj (toNat_toTimeUUIDTimestamp_lt now) (toNat_toTimeUUIDTimestamp_lt reading) hle
    hle' hsame
  rcases hnew with hfresh | ⟨hlast, hnext⟩
  · rw [← hstamp] at hread
    exact hfresh hread
  · exact absurd (hbelow (hstamp.symm.trans hlast)) (BitVec.not_lt.mpr hnext)

theorem lt_succ_of_le {clockId : BitVec 32} (hle : clockId ≤ MaxClockId) : clockId < clockId + 1 := by
  have hmax : MaxClockId.toNat = 2 ^ 14 - 1 := rfl
  rw [BitVec.le_def, hmax] at hle
  bv_omega

/-- One more uuid, the first of its time stamp or the next one of the last time stamp -/
theorem concat (hstatics : Remembers random readings statics uuids) {now : TimePoint} {clockId : BitVec 32}
    (hle : clockId ≤ MaxClockId)
    (hnew : toTimeUUIDTimestamp now ∉ readings.map toTimeUUIDTimestamp ∧ clockId = 0 ∨
      toTimeUUIDTimestamp now = statics.lastTimestamp ∧ clockId = statics.clockId) :
    Remembers random (readings ++ [now])
      { nodeId := random, lastTimestamp := toTimeUUIDTimestamp now, clockId := clockId + 1 }
      (uuids ++ [makeTimeUUIDOf (toTimeUUIDTimestamp now) clockId random]) := by
  have hnotMem : makeTimeUUIDOf (toTimeUUIDTimestamp now) clockId random ∉ uuids := by
    refine hstatics.notMem hle (hnew.imp And.left ?_)
    rintro ⟨hstamp, rfl⟩
    exact ⟨hstamp, BitVec.le_refl _⟩
  have hlt := lt_succ_of_le hle
  refine ⟨.inr rfl, ?_, fun _ => by simp, ?_, ?_⟩
  · refine List.nodup_append.mpr ⟨hstatics.nodup, List.nodup_singleton _, fun uuid huuid other hother => ?_⟩
    rw [List.mem_singleton.mp hother]
    rintro rfl
    exact hnotMem huuid
  · intro uuid huuid
    rcases List.mem_append.mp huuid with hold | hlast
    · obtain ⟨timeStamp, hread, clockId', hle', hsame, hbelow⟩ := hstatics.returned uuid hold
      refine ⟨timeStamp, ?_, clockId', hle', hsame, fun hstamp => ?_⟩
      · rw [List.map_append]
        exact List.mem_append_left _ hread
      · rcases hnew with ⟨hfresh, -⟩ | ⟨hstamp', rfl⟩
        · rw [hstamp] at hread
          exact absurd hread hfresh
        · have hsmaller := hbelow (hstamp.trans hstamp')
          dsimp only
          bv_omega
    · exact ⟨_, by simp, clockId, hle, List.mem_singleton.mp hlast, fun _ => hlt⟩
  · intro clockId' hlt'
    dsimp only at hlt' ⊢
    by_cases heq : clockId' = clockId
    · rw [heq]
      exact List.mem_append_right _ (List.mem_singleton_self _)
    · have hsmaller : clockId' < clockId := by bv_omega
      rcases hnew with ⟨-, rfl⟩ | ⟨hstamp, rfl⟩
      · exact absurd hsmaller (by simp)
      · rw [hstamp]
        exact List.mem_append_left _ (hstatics.given clockId' hsmaller)

/-- One more call, with a time stamp that does not come back -/
theorem step (hstatics : Remembers random readings statics uuids) {now : TimePoint}
    (hreturn : toTimeUUIDTimestamp now ∈ readings.map toTimeUUIDTimestamp →
      (readings.map toTimeUUIDTimestamp).getLast? = some (toTimeUUIDTimestamp now)) :
    Remembers random (readings ++ [now]) (makeTimeUUID random statics now).2
        (uuids ++ (makeTimeUUID random statics now).1.toOption.toList) ∧
      ((makeTimeUUID random statics now).1 =
          .error ⟨text "generate time uuid failed, clock id is exhausted in this 100 nanoseconds"⟩ ↔
        ∀ clockId ≤ MaxClockId, makeTimeUUIDOf (toTimeUUIDTimestamp now) clockId random ∈ uuids) := by
  rcases makeTimeUUID_cases hstatics.nodeId now with ⟨hnew, hcall⟩ | ⟨hsame, hle, hcall⟩ | ⟨hsame, hlt, hcall⟩
  · have hfresh : toTimeUUIDTimestamp now ∉ readings.map toTimeUUIDTimestamp := by
      intro hmem
      have hne : readings ≠ [] := by
        rintro rfl
        cases hmem
      have hbefore := hreturn hmem
      rw [hstatics.last hne, Option.some.injEq] at hbefore
      exact hnew hbefore.symm
    have hzero : (0 : BitVec 32) ≤ MaxClockId := by decide
    rw [hcall]
    refine ⟨hstatics.concat hzero (.inl ⟨hfresh, rfl⟩), iff_of_false nofun fun hall => ?_⟩
    exact hstatics.notMem hzero (.inl hfresh) (hall 0 hzero)
  · rw [hcall, ← hsame]
    refine ⟨hstatics.concat hle (.inr ⟨hsame, rfl⟩), iff_of_false nofun fun hall => ?_⟩
    exact hstatics.notMem hle (.inr ⟨hsame, BitVec.le_refl _⟩) (hall _ hle)
  · rw [hcall]
    refine ⟨⟨.inr rfl, ?_, fun _ => by simp [hsame], ?_, ?_⟩, iff_of_true rfl fun clockId hle => ?_⟩
    · simpa [Except.toOption] using hstatics.nodup
    · intro uuid huuid
      have huuid : uuid ∈ uuids := by simpa [Except.toOption] using huuid
      obtain ⟨timeStamp, hread, hrest⟩ := hstatics.returned uuid huuid
      refine ⟨timeStamp, ?_, hrest⟩
      rw [List.map_append]
      exact List.mem_append_left _ hread
    · intro clockId hbelow
      simpa [Except.toOption] using hstatics.given clockId hbelow
    · rw [hsame]
      exact hstatics.given clockId (by bv_omega)

end Remembers

/-- Every call leaves the time stamp that it read. -/
theorem lastTimestamp_makeTimeUUID {statics : TimeUUIDStatics} (hnode : statics.nodeId = 0 ∨ statics.nodeId = random)
    (now : TimePoint) :
    (makeTimeUUID random statics now).2.nodeId = random ∧
      (makeTimeUUID random statics now).2.lastTimestamp = toTimeUUIDTimestamp now := by
  rcases makeTimeUUID_cases hnode now with ⟨-, hcall⟩ | ⟨hsame, -, hcall⟩ | ⟨hsame, -, hcall⟩
  · rw [hcall]
    exact ⟨rfl, rfl⟩
  · rw [hcall]
    exact ⟨rfl, hsame.symm⟩
  · rw [hcall]
    exact ⟨rfl, hsame.symm⟩

variable (random)

theorem nodeId_staticsAfter (readings : List TimePoint) :
    (staticsAfter random readings).nodeId = 0 ∨ (staticsAfter random readings).nodeId = random := by
  induction readings using List.reverseRecOn with
  | nil => exact .inl rfl
  | append_singleton before now ih =>
    rw [staticsAfter_concat]
    exact .inr (lastTimestamp_makeTimeUUID ih now).1

theorem getLast?_timestamps {readings : List TimePoint} (hne : readings ≠ []) :
    (readings.map toTimeUUIDTimestamp).getLast? = some (staticsAfter random readings).lastTimestamp := by
  obtain ⟨before, now, rfl⟩ := (List.eq_nil_or_concat' readings).resolve_left hne
  rw [staticsAfter_concat, (lastTimestamp_makeTimeUUID (nodeId_staticsAfter random before) now).2]
  simp

/-- A call with another time stamp than that of the call before returns the first uuid of its time stamp. -/
theorem makeTimeUUID_first (before : List TimePoint) (now : TimePoint)
    (hother : before ≠ [] → (before.map toTimeUUIDTimestamp).getLast? ≠ some (toTimeUUIDTimestamp now)) :
    (makeTimeUUID random (staticsAfter random before) now).1 =
      .ok (makeTimeUUIDOf (toTimeUUIDTimestamp now) 0 random) := by
  have hstatics : toTimeUUIDTimestamp now = (staticsAfter random before).lastTimestamp →
      (staticsAfter random before).clockId = 0 := by
    intro hsame
    have hempty : before = [] := by
      by_contra hne
      refine hother hne ?_
      rw [getLast?_timestamps random hne, hsame]
    rw [hempty]
    rfl
  rcases makeTimeUUID_cases (nodeId_staticsAfter random before) now with
    ⟨-, hcall⟩ | ⟨hsame, -, hcall⟩ | ⟨hsame, hlt, hcall⟩
  · rw [hcall]
  · rw [hcall, hstatics hsame, hsame]
  · rw [hstatics hsame] at hlt
    exact absurd hlt (by decide)

theorem first_mem_returnedUUIDs {timeStamp : BitVec 64} (readings : List TimePoint)
    (hread : timeStamp ∈ readings.map toTimeUUIDTimestamp) :
    makeTimeUUIDOf timeStamp 0 random ∈ returnedUUIDs random readings := by
  induction readings using List.reverseRecOn with
  | nil => cases hread
  | append_singleton before now ih =>
    rw [returnedUUIDs_concat]
    by_cases hbefore : timeStamp ∈ before.map toTimeUUIDTimestamp
    · exact List.mem_append_left _ (ih hbefore)
    · obtain rfl : timeStamp = toTimeUUIDTimestamp now := by simpa [hbefore] using hread
      have hfirst := makeTimeUUID_first random before now fun _ hlast =>
        hbefore (List.mem_of_getLast? hlast)
      rw [hfirst]
      exact List.mem_append_right _ (List.mem_singleton_self _)

theorem returnedUUIDs_prefix (before after : List TimePoint) :
    returnedUUIDs random before <+: returnedUUIDs random (before ++ after) := by
  unfold returnedUUIDs
  rw [Transducer.run_append, List.filterMap_append]
  exact List.prefix_append ..

variable {random} {readings : List TimePoint}

theorem NeverReturns.of_append {before after : List TimePoint} (hreadings : NeverReturns (before ++ after)) :
    NeverReturns before := by
  rintro earlier now later rfl
  exact hreadings earlier now (later ++ after) (by simp)

theorem NeverReturns.remembers (hreadings : NeverReturns readings) :
    Remembers random readings (staticsAfter random readings) (returnedUUIDs random readings) := by
  induction readings using List.reverseRecOn with
  | nil => exact Remembers.start
  | append_singleton before now ih =>
    rw [staticsAfter_concat, returnedUUIDs_concat]
    exact ((ih hreadings.of_append).step (hreadings before now [] rfl)).1

end Step

/-- The uuids of a thread never repeat exactly when the clock does not come back to a time stamp that it has left: the
    first call with that time stamp again starts over with its clock ids. -/
theorem staysUnique_iff (random : BitVec 64) (readings : List TimePoint) :
    StaysUnique random readings ↔ NeverReturns readings := by
  constructor
  · rintro hunique before now after rfl hread
    by_contra hother
    have hprefix : returnedUUIDs random (before ++ [now]) <+: returnedUUIDs random (before ++ now :: after) := by
      rw [List.append_cons before now after]
      exact returnedUUIDs_prefix ..
    have hnodup := hunique.nodup.sublist hprefix.sublist
    rw [returnedUUIDs_concat, makeTimeUUID_first random before now fun _ => hother] at hnodup
    -- the first uuid of the time stamp, from its first call and from this one
    have hbefore := first_mem_returnedUUIDs random before hread
    exact (List.nodup_append.mp hnodup).2.2 _ hbefore _ (List.mem_singleton_self _) rfl
  · intro hreadings
    refine ⟨hreadings.remembers.nodup, ?_⟩
    rintro before now after rfl
    exact (hreadings.of_append.remembers.step (hreadings before now after rfl)).2

/-- The clock is set back by 100 nanoseconds. -/
theorem not_staysUnique_set_back : ¬ StaysUnique 1 [⟨0, by decide⟩, ⟨100, by decide⟩, ⟨0, by decide⟩] := by
  intro hunique
  exact absurd hunique.nodup (by decide +kernel)

end cpv
