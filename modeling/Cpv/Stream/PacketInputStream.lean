import Cpv.Stream.InputStream
import Cpv.Utility.PacketStore

namespace cpv

variable {Deleter Buffer : Type} [DeleterChain Deleter Buffer]

/-- Input stream that use given packet as data source -/
structure PacketInputStream (Deleter Buffer : Type) [DeleterChain Deleter Buffer] where
  packet : Packet Deleter Buffer := .new
  sizeHint : UInt64 := 0
  index : Nat := 0

/-- The first fragment from an index on that is not empty, whether it is at the last position, and the index behind it -/
def MultipleFragments.read (multiple : MultipleFragments Deleter Buffer) (index : Nat) : InputStreamReadResult × Nat :=
  if h : index < multiple.fragments.length then
    if multiple.fragments[index].size = 0 then multiple.read (index + 1)
    else
      ({ data := multiple.fragments[index].text, isEnd := decide (multiple.fragments.length ≤ index + 1) }, index + 1)
  else ({}, index)
termination_by multiple.fragments.length - index

namespace PacketInputStream

/-- Read data from stream -/
def read (stream : PacketInputStream Deleter Buffer) : InputStreamReadResult × PacketInputStream Deleter Buffer :=
  match stream.packet with
  | .multiple m =>
    let (result, index) := m.read stream.index
    (result, { stream with index })
  | .single s =>
    if stream.index = 0 then ({ data := s.fragment.text, isEnd := true }, { stream with index := 1 })
    else ({}, stream)
  | .valueless => ({}, stream)

/-- For Reusable -/
def reset (_ : PacketInputStream Deleter Buffer) (packet : Packet Deleter Buffer) : PacketInputStream Deleter Buffer where
  packet := packet
  sizeHint := UInt64.ofNat packet.size
  index := 0

/-- Every read is resolved at once and never fails. -/
def base (ε : Type) : InputStreamBase ε (PacketInputStream Deleter Buffer) where
  read stream := ({ available := true, outcome := .ok stream.read.1 }, stream.read.2)
  sizeHint stream := some stream.sizeHint

variable {ε : Type} {stream next : PacketInputStream Deleter Buffer} {chunk : SharedString} {chunks : List SharedString}

theorem yields_last (hread : stream.read = ({ data := chunk, isEnd := true }, next)) :
    (base ε).Yields next stream [chunk] :=
  .last (congrArg (fun read => (Future.mk true (.ok read.1), read.2)) hread)

theorem yields_more {final : PacketInputStream Deleter Buffer}
    (hread : stream.read = ({ data := chunk, isEnd := false }, next)) (hrest : (base ε).Yields final next chunks) :
    (base ε).Yields final stream (chunk :: chunks) :=
  .more (congrArg (fun read => (Future.mk true (.ok read.1), read.2)) hread) hrest

/-- Nothing is left to read, and reading changes nothing. -/
def AtEnd (stream : PacketInputStream Deleter Buffer) : Prop := stream.read = ({}, stream)

theorem AtEnd.later (hend : stream.AtEnd) (reads : Nat) :
    ((base ε).read ((base ε).afterReads reads stream)).1 = { available := true, outcome := .ok {} } := by
  have hstays : (base ε).afterReads reads stream = stream :=
    Function.iterate_fixed (congrArg Prod.snd hend) reads
  rw [hstays]
  exact congrArg (fun read => Future.mk true (.ok read.1)) hend

theorem read_multiple {m : MultipleFragments Deleter Buffer} (hpacket : stream.packet = .multiple m) :
    stream.read = ((m.read stream.index).1, { stream with index := (m.read stream.index).2 }) := by
  obtain ⟨packet, sizeHint, index⟩ := stream
  obtain rfl : packet = .multiple m := hpacket
  rfl

theorem atEnd_multiple {m : MultipleFragments Deleter Buffer} (hpacket : stream.packet = .multiple m)
    (hindex : m.fragments.length ≤ stream.index) : stream.AtEnd := by
  rw [AtEnd, read_multiple hpacket, MultipleFragments.read, dif_neg (by omega)]

/-- From any fragment on the chunks are what is left of the text. Where only empty fragments are left one more read has
    the end. -/
theorem yields_multiple (m : MultipleFragments Deleter Buffer) {left : Nat} (hpacket : stream.packet = .multiple m)
    (hleft : m.fragments.length - stream.index = left) :
    ∃ chunks final, (base ε).Yields final stream chunks ∧ final.AtEnd ∧
      chunks.flatten = (m.fragments.drop stream.index).flatMap Fragment.text := by
  induction left generalizing stream with
  | zero =>
    have hend := atEnd_multiple hpacket (by omega)
    refine ⟨[[]], stream, yields_last hend, hend, ?_⟩
    rw [List.drop_eq_nil_of_le (by omega)]
    rfl
  | succ left ih =>
    have hindex : stream.index < m.fragments.length := by omega
    let next : PacketInputStream Deleter Buffer := { stream with index := stream.index + 1 }
    obtain ⟨chunks, final, hyields, hend, htext⟩ := @ih next hpacket (by show _ - (_ + 1) = _; omega)
    rw [List.drop_eq_getElem_cons hindex, List.flatMap_cons, ← htext]
    by_cases hempty : m.fragments[stream.index].size = 0
    · -- an empty fragment is skipped by the same read
      have hread : stream.read = next.read := by
        rw [read_multiple hpacket, MultipleFragments.read, dif_pos hindex, if_pos hempty]
        exact (@read_multiple _ _ _ next m hpacket).symm
      refine ⟨chunks, final, hyields.congr ?_, hend, ?_⟩
      · exact congrArg (fun read => (Future.mk true (.ok read.1), read.2)) hread
      · rw [Fragment.size_eq_zero.mp hempty, List.nil_append]
    · have hread : stream.read =
          ({ data := m.fragments[stream.index].text, isEnd := decide (m.fragments.length ≤ stream.index + 1) }, next) := by
        rw [read_multiple hpacket, MultipleFragments.read, dif_pos hindex, if_neg hempty]
      by_cases hlast : m.fragments.length ≤ stream.index + 1
      · rw [decide_eq_true hlast] at hread
        refine ⟨_, next, yields_last hread, atEnd_multiple hpacket hlast, ?_⟩
        rw [htext, List.flatten_singleton, List.drop_eq_nil_of_le hlast, List.flatMap_nil, List.append_nil]
      · rw [decide_eq_false hlast] at hread
        exact ⟨_, final, yields_more hread hyields, hend, List.flatten_cons⟩

/-- Reading a packet to the end yields its text. -/
theorem yields_packet (packet : Packet Deleter Buffer) :
    ∃ chunks final, (base ε).Yields final (stream.reset packet) chunks ∧ final.AtEnd ∧ chunks.flatten = packet.text := by
  cases packet with
  | multiple m => exact yields_multiple m rfl rfl
  | single s => exact ⟨_, _, yields_last rfl, rfl, rfl⟩
  | valueless => exact ⟨_, _, yields_last rfl, rfl, rfl⟩

end PacketInputStream

/-- Reading a stream returns its content: a packet's text chunk by chunk, with empty reads at the end for ever, and all
    chunks at once of any stream, whatever hint of its size it gives. -/
theorem readAll_returns_content :
    (∀ (ε : Type) (stream : PacketInputStream Deleter Buffer) (packet : Packet Deleter Buffer), ∃ chunks final,
      (PacketInputStream.base ε).Yields final (stream.reset packet) chunks ∧ packet.toString = some chunks.flatten ∧
        ∀ reads, ((PacketInputStream.base ε).read ((PacketInputStream.base ε).afterReads reads final)).1 =
          { available := true, outcome := .ok { data := [], isEnd := true } }) ∧
    ∀ (ε σ : Type) (stream : InputStreamBase ε σ) (state final : σ) (chunks : List SharedString),
      stream.Yields final state chunks → ∀ reads, chunks.length ≤ reads →
        stream.readAll reads state = some (.ok chunks.flatten) ∧
        ∀ builder : SharedStringBuilder, builder.WellFormed → ∃ after,
          stream.readAllInto reads state builder = some { stream := final, builder := after } ∧
            after.WellFormed ∧ after.view = builder.view ++ chunks.flatten := by
  refine ⟨fun ε stream packet => ?_, fun ε σ stream state final chunks hyields reads hreads => ?_⟩
  · obtain ⟨chunks, final, hyields, hend, htext⟩ := stream.yields_packet packet
    exact ⟨chunks, final, hyields, htext ▸ packet.toString_eq, hend.later⟩
  · exact ⟨hyields.readAll hreads, fun _ hbuilder => hyields.readAllInto hbuilder hreads⟩

/-- The stream of given chunks, with a given hint -/
def InputStreamBase.ofChunks (sizeHint : Option UInt64) : InputStreamBase Empty (List SharedString) where
  read chunks := ({ available := false, outcome := .ok { data := chunks.headI, isEnd := chunks.tail.isEmpty } }, chunks.tail)
  sizeHint _ := sizeHint

/-- The first chunk is longer than the hint. -/
theorem readAll_returns_content_smallHint :
    (InputStreamBase.ofChunks (some 1)).readAll 3 [text "ab", text "c", text ""] = some (.ok (text "abc")) :=
  ((@readAll_returns_content (List Nat) Nat _).2 _ _ _ _ [] [text "ab", text "c", text ""]
    (.more rfl (.more rfl (.last rfl))) 3 (Nat.le_refl 3)).1

end cpv
