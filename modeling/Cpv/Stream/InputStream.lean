import Cpv.Core.Loop
import Cpv.Utility.SharedStringBuilder

namespace cpv

/-- Contains data read from stream -/
structure InputStreamReadResult where
  data : SharedString := []
  isEnd : Bool := true
  deriving DecidableEq

/-- A future: whether it is resolved already, and what it is resolved with in the end -/
structure Future (ε α : Type) where
  available : Bool
  outcome : Except ε α

/-- Interface of simple input stream, over the states of an implementation -/
structure InputStreamBase (ε σ : Type) where
  read : σ → Future ε InputStreamReadResult × σ
  sizeHint : σ → Option UInt64

namespace InputStreamBase

variable {ε σ : Type} (stream : InputStreamBase ε σ)

/-- The reads from a state on return the chunks one after another, only the last of them with `isEnd`, and leave the
    stream in the state `final`. -/
inductive Yields (final : σ) : σ → List SharedString → Prop
  | last {state : σ} {available : Bool} {chunk : SharedString}
      (hread : stream.read state = ({ available, outcome := .ok { data := chunk, isEnd := true } }, final)) :
      Yields final state [chunk]
  | more {state next : σ} {available : Bool} {chunk : SharedString} {chunks : List SharedString}
      (hread : stream.read state = ({ available, outcome := .ok { data := chunk, isEnd := false } }, next))
      (hrest : Yields final next chunks) : Yields final state (chunk :: chunks)

/-- The state of a stream after some reads -/
def afterReads (reads : Nat) (state : σ) : σ := (fun state => (stream.read state).2)^[reads] state

/-- avoid out-of-memory attack and handle overflow -/
def MaxReservedCapacity : Nat := 1048576

/-- A stream that is read into a builder, and the failure of a read -/
structure ReadAllState (ε σ : Type) where
  stream : σ
  builder : SharedStringBuilder
  failure : Option ε := none

/-- Read data from stream and append it to the builder, until the end of the stream -/
def readRound (state : ReadAllState ε σ) : Option (ForInStep (ReadAllState ε σ)) :=
  let (future, next) := stream.read state.stream
  match future.outcome with
  | .error failure => some (.done { state with stream := next, failure := some failure })
  | .ok result =>
    let appended := { state with stream := next, builder := state.builder.append result.data }
    some (if result.isEnd then .done appended else .yield appended)

/-- Read all data from stream and append to given string builder, with so many reads at most -/
def readAllInto (reads : Nat) (state : σ) (builder : SharedStringBuilder) : Option (ReadAllState ε σ) :=
  let sizeHint := (stream.sizeHint state).getD 0
  let builder :=
    -- reserve buffer if size hint of stream is available
    if sizeHint > 0 then builder.reserve (min (UInt64.ofNat builder.size + sizeHint).toNat MaxReservedCapacity)
    else builder
  Loop.run stream.readRound reads { stream := state, builder }

/-- Read what follows the first result and return all of it as string -/
def readRest (reads : Nat) (state : σ) (first : Future ε InputStreamReadResult) : Option (Except ε SharedString) :=
  match first.outcome with
  | .error failure => some (.error failure)
  | .ok result =>
    -- the first result is the last result
    if result.isEnd then some (.ok result.data)
    else
      let sizeHint := (stream.sizeHint state).getD 0
      let builder : SharedStringBuilder :=
        -- reserve buffer if size hint of stream is available
        if sizeHint > 0 then
          SharedStringBuilder.reserve {} (min (sizeHint - UInt64.ofNat result.data.length).toNat MaxReservedCapacity)
        else {}
      (Loop.run stream.readRound reads { stream := state, builder := builder.append result.data }).map fun final =>
        match final.failure with
        | some failure => .error failure
        | none => .ok final.builder.build.1

/-- Read all data from stream and return it as string, with so many reads at most after the first one -/
def readAll (reads : Nat) (state : σ) : Option (Except ε SharedString) :=
  let (first, next) := stream.read state
  if first.available then
    match first.outcome with
    -- fast path
    | .ok result => if result.isEnd then some (.ok result.data) else stream.readRest reads next first
    | .error failure => some (.error failure)
  -- enter normal path
  else stream.readRest reads next first

variable {stream} {state other final : σ} {chunks : List SharedString} {builder : SharedStringBuilder} {reads : Nat}

/-- What is read from a state on depends on the next read only. -/
theorem Yields.congr (hyields : stream.Yields final state chunks) (hread : stream.read other = stream.read state) :
    stream.Yields final other chunks := by
  cases hyields with
  | last hlast => exact .last (hread.trans hlast)
  | more hmore hrest => exact .more (hread.trans hmore) hrest

/-- The loop appends the chunks to what the builder has. -/
theorem Yields.repeat (hyields : stream.Yields final state chunks) (hbuilder : builder.WellFormed)
    (hreads : chunks.length ≤ reads) :
    ∃ after, Loop.run stream.readRound reads { stream := state, builder } = some { stream := final, builder := after } ∧
      after.WellFormed ∧ after.view = builder.view ++ chunks.flatten := by
  induction hyields generalizing builder reads with
  | @last state available chunk hread =>
    obtain ⟨reads, rfl⟩ : ∃ rest, reads = rest + 1 := Nat.exists_eq_add_of_le' hreads
    obtain ⟨happend, hview⟩ := hbuilder.append chunk
    refine ⟨_, Loop.run_done ?_, happend, ?_⟩
    · rw [readRound, hread]
      rfl
    · rw [hview, List.flatten_singleton]
  | @more state next available chunk chunks hread hrest ih =>
    obtain ⟨reads, rfl⟩ : ∃ rest, reads = rest + 1 :=
      Nat.exists_eq_add_of_le' ((Nat.succ_le_succ (Nat.zero_le _)).trans hreads)
    obtain ⟨happend, hview⟩ := hbuilder.append chunk
    obtain ⟨after, hrun, hafter, hall⟩ := ih happend (Nat.le_of_succ_le_succ hreads)
    refine ⟨after, ?_, hafter, ?_⟩
    · rw [← hrun]
      apply Loop.run_yield
      rw [readRound, hread]
      rfl
    · rw [hall, hview, List.flatten_cons, List.append_assoc]

/-- Whatever size is reserved, the builder has the chunks in the end. -/
theorem Yields.readAllInto (hyields : stream.Yields final state chunks) (hbuilder : builder.WellFormed)
    (hreads : chunks.length ≤ reads) :
    ∃ after, stream.readAllInto reads state builder = some { stream := final, builder := after } ∧
      after.WellFormed ∧ after.view = builder.view ++ chunks.flatten := by
  rw [InputStreamBase.readAllInto]
  split
  · obtain ⟨hreserve, hview⟩ := hbuilder.wellFormed_reserve
      (min (UInt64.ofNat builder.size + (stream.sizeHint state).getD 0).toNat MaxReservedCapacity)
    rw [← hview]
    exact hyields.repeat hreserve hreads
  · exact hyields.repeat hbuilder hreads

theorem Yields.readRest {available : Bool} {chunk : SharedString} (hyields : stream.Yields final state chunks)
    (hreads : chunks.length ≤ reads) :
    stream.readRest reads state { available, outcome := .ok { data := chunk, isEnd := false } } =
      some (.ok (chunk ++ chunks.flatten)) := by
  have hloop {builder : SharedStringBuilder} (hbuilder : builder.WellFormed) (hempty : builder.view = []) :
      ((Loop.run stream.readRound reads { stream := state, builder := builder.append chunk }).map fun final =>
        match final.failure with
        | some failure => .error failure
        | none => .ok final.builder.build.1) = some (Except.ok (chunk ++ chunks.flatten) : Except ε SharedString) := by
    obtain ⟨happend, hview⟩ := hbuilder.append chunk
    obtain ⟨after, hrun, -, hall⟩ := hyields.repeat happend hreads
    rw [hrun, Option.map_some]
    show some (Except.ok after.view) = _
    rw [hall, hview, hempty, List.nil_append]
  rw [InputStreamBase.readRest]
  split
  · rename_i hfailure
    cases hfailure
  rename_i result hresult
  obtain rfl := Except.ok.inj hresult
  rw [if_neg Bool.false_ne_true]
  dsimp only
  split
  · obtain ⟨hreserve, hview⟩ := SharedStringBuilder.wellFormed_empty.wellFormed_reserve
      (min ((stream.sizeHint state).getD 0 - UInt64.ofNat chunk.length).toNat MaxReservedCapacity)
    exact hloop hreserve hview
  · exact hloop SharedStringBuilder.wellFormed_empty rfl

/-- The fast path and the first chunk that is the last one have no loop. -/
theorem Yields.readAll (hyields : stream.Yields final state chunks) (hreads : chunks.length ≤ reads) :
    stream.readAll reads state = some (.ok chunks.flatten) := by
  cases hyields with
  | @last _ available chunk hread =>
    rw [InputStreamBase.readAll, hread, List.flatten_singleton]
    cases available <;> rfl
  | @more _ next available chunk chunks hread hrest =>
    have hnormal : stream.readRest reads next { available, outcome := .ok { data := chunk, isEnd := false } } =
        some (.ok (chunk ++ chunks.flatten)) :=
      hrest.readRest (Nat.le_of_succ_le hreads)
    rw [InputStreamBase.readAll, hread, List.flatten_cons, ← hnormal]
    cases available <;> rfl

end InputStreamBase

end cpv
