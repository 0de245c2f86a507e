import Cpv.Core.Objects
import Cpv.Utility.PacketAppend

namespace cpv

variable {Deleter Buffer : Type} [DeleterChain Deleter Buffer]

namespace Packet

/-- Default constructor: an empty single fragment without deleter -/
def new : Packet Deleter Buffer := single { fragment := {}, deleter := DeleterChain.empty }

/-- Construct with string -/
def ofString (str : OwnedString Deleter Buffer) : Packet Deleter Buffer := single (.ofString str)

/-- Construct with capacity prepare for multiple fragments -/
def ofCapacity (_ : Nat) : Packet Deleter Buffer := multiple .new

/-- Move assignment from the packet itself: the free list pointer of multiple fragments is kept. -/
def movedToItself : Packet Deleter Buffer → Packet Deleter Buffer
  | single s => single { s with fragment := s.fragment.cleared }
  | multiple m => multiple m
  | valueless => valueless

theorem owned_empty : (new : Packet Deleter Buffer).Owned := fun hne => absurd rfl hne

theorem Owned.movedToItself {packet : Packet Deleter Buffer} (howned : packet.Owned) : packet.movedToItself.Owned := by
  cases packet with
  | single s => exact Fragment.ownedBy_cleared _ _
  | multiple m => exact howned
  | valueless => trivial

theorem owned_release (packet : Packet Deleter Buffer) : packet.release.Owned := by
  cases packet with
  | single s => exact Fragment.ownedBy_cleared _ _
  | multiple m => exact owned_new
  | valueless => trivial

/-- What is read of a packet as a string, printed to a stream or written to a string builder is `text`. -/
structure ReadsAs (packet : Packet Deleter Buffer) (text : SharedString) : Prop where
  toString : packet.toString = some text
  print : ∀ stream, packet.print stream = stream ++ text
  writeTo : ∀ builder : SharedStringBuilder, builder.WellFormed →
    (packet.writeTo builder).WellFormed ∧ (packet.writeTo builder).view = builder.view ++ text

omit [DeleterChain Deleter Buffer] in
theorem readsAs_text (packet : Packet Deleter Buffer) : packet.ReadsAs packet.text where
  toString := packet.toString_eq
  print := packet.print_eq
  writeTo _ hbuilder := packet.writeTo_spec hbuilder

end Packet

/-- A call that constructs, changes or moves some of the packets there are -/
inductive PacketCall (Deleter Buffer : Type) [DeleterChain Deleter Buffer]
  | construct
  | constructString (str : OwnedString Deleter Buffer)
  | constructCapacity (capacity : Nat)
  | constructMove (other : Nat)
  | assignMove (packet other : Nat)
  | getOrConvertToMultiple (packet : Nat)
  | append (packet : Nat) (str : OwnedString Deleter Buffer)
  | appendPacket (packet other : Nat)
  /-- `getOrConvertToMultiple` and append to its fragments -/
  | appendToMultiple (packet : Nat) (str : OwnedString Deleter Buffer)
  | appendStatic (packet : Nat) (str : SharedString)
  | release (packet : Nat)

/-- The packets there are, each at its number -/
abbrev PacketStore (Deleter Buffer : Type) := List (Packet Deleter Buffer)

namespace PacketStore

open Objects

/-- The packets after a call. A packet is never appended to itself. -/
def step (packets : PacketStore Deleter Buffer) : PacketCall Deleter Buffer → Option (PacketStore Deleter Buffer)
  | .construct => some (packets ++ [.new])
  | .constructString str => some (packets ++ [.ofString str])
  | .constructCapacity capacity => some (packets ++ [.ofCapacity capacity])
  | .constructMove other => packets[other]?.map fun p => packets.set other p.movedFrom ++ [p]
  | .assignMove packet other =>
    if packet = other then modify packets packet .movedToItself
    else modifyBoth packets packet other fun _ q => (q, q.movedFrom)
  | .getOrConvertToMultiple packet => modify packets packet fun p => .multiple p.getOrConvertToMultiple
  | .append packet str => modify packets packet (·.append str)
  | .appendPacket packet other => modifyBoth packets packet other Packet.appendPacket
  | .appendToMultiple packet str => modify packets packet fun p => .multiple (p.getOrConvertToMultiple.append str)
  | .appendStatic packet str => modify packets packet fun p => .multiple (p.getOrConvertToMultiple.appendStatic str)
  | .release packet => modify packets packet .release

/-- What a call leaves in the packets that it makes or changes. -/
def Leaves (P : Packet Deleter Buffer → Prop) (packets : PacketStore Deleter Buffer) :
    PacketCall Deleter Buffer → Prop
  | .construct => P .new
  | .constructString str => P (.ofString str)
  | .constructCapacity capacity => P (.ofCapacity capacity)
  | .constructMove other => ∀ p, packets[other]? = some p → P p.movedFrom
  | .assignMove packet other =>
    if packet = other then ∀ p, packets[packet]? = some p → P p.movedToItself
    else ∀ p q, packets[packet]? = some p → packets[other]? = some q → P q ∧ P q.movedFrom
  | .getOrConvertToMultiple packet => ∀ p, packets[packet]? = some p → P (.multiple p.getOrConvertToMultiple)
  | .append packet str => ∀ p, packets[packet]? = some p → P (p.append str)
  | .appendPacket packet other => packet ≠ other → ∀ p q, packets[packet]? = some p → packets[other]? = some q →
      P (p.appendPacket q).1 ∧ P (p.appendPacket q).2
  | .appendToMultiple packet str =>
    ∀ p, packets[packet]? = some p → P (.multiple (p.getOrConvertToMultiple.append str))
  | .appendStatic packet str =>
    ∀ p, packets[packet]? = some p → P (.multiple (p.getOrConvertToMultiple.appendStatic str))
  | .release packet => ∀ p, packets[packet]? = some p → P p.release

variable {packets after : PacketStore Deleter Buffer} {P : Packet Deleter Buffer → Prop}

/-- All packets have a property after a call where the packets that it makes or changes have it. -/
theorem forall_step_iff (hpackets : ∀ packet ∈ packets, P packet) (call : PacketCall Deleter Buffer) :
    (∀ after, step packets call = some after → ∀ packet ∈ after, P packet) ↔ packets.Leaves P call := by
  have hconcat (new : Packet Deleter Buffer) :
      (∀ after, some (packets ++ [new]) = some after → ∀ packet ∈ after, P packet) ↔ P new := by
    simp only [Option.some.injEq, forall_eq', forall_concat_iff hpackets]
  cases call with
  | construct => exact hconcat _
  | constructString str => exact hconcat _
  | constructCapacity capacity => exact hconcat _
  | constructMove other =>
    refine Iff.trans ?_ (forall_modify_iff hpackets Packet.movedFrom)
    constructor
    · intro hafter after hmodify packet hmem
      obtain ⟨p, hp, rfl⟩ := modify_eq_some.mp hmodify
      exact hafter _ (by rw [step, hp]; rfl) packet (List.mem_append_left _ hmem)
    · intro hmodified after hstep
      obtain ⟨p, hp, rfl⟩ := Option.map_eq_some_iff.mp hstep
      have hset := hmodified _ (modify_eq_some.mpr ⟨p, hp, rfl⟩)
      exact (forall_concat_iff hset p).mpr (hpackets p (List.mem_of_getElem? hp))
  | assignMove packet other =>
    rw [step, Leaves]
    split
    · exact forall_modify_iff hpackets _
    · rename_i hne
      rw [forall_modifyBoth_iff hpackets, imp_iff_right hne]
  | getOrConvertToMultiple packet => exact forall_modify_iff hpackets _
  | append packet str => exact forall_modify_iff hpackets _
  | appendPacket packet other => exact forall_modifyBoth_iff hpackets _
  | appendToMultiple packet str => exact forall_modify_iff hpackets _
  | appendStatic packet str => exact forall_modify_iff hpackets _
  | release packet => exact forall_modify_iff hpackets _

theorem owned_step {call : PacketCall Deleter Buffer} (hstep : step packets call = some after)
    (howned : ∀ packet ∈ packets, packet.Owned) : ∀ packet ∈ after, packet.Owned := by
  refine (forall_step_iff howned call).mpr ?_ after hstep
  have howned' {index : Nat} {p : Packet Deleter Buffer} (hp : packets[index]? = some p) : p.Owned :=
    howned p (List.mem_of_getElem? hp)
  cases call with
  | construct => exact Packet.owned_empty
  | constructString str => exact str.owned
  | constructCapacity capacity => exact Packet.owned_new
  | constructMove other => exact fun p _ => p.owned_movedFrom
  | assignMove packet other =>
    rw [Leaves]
    split
    · exact fun p hp => (howned' hp).movedToItself
    · exact fun p q _ hq => ⟨howned' hq, q.owned_movedFrom⟩
  | getOrConvertToMultiple packet => exact fun p hp => (howned' hp).getOrConvertToMultiple
  | append packet str => exact fun p hp => (howned' hp).append str
  | appendPacket packet other => exact fun _ p q hp hq => (howned' hp).appendPacket (howned' hq)
  | appendToMultiple packet str =>
    exact fun p hp => MultipleFragments.owned_append (howned' hp).getOrConvertToMultiple str
  | appendStatic packet str =>
    exact fun p hp => MultipleFragments.owned_appendStatic (howned' hp).getOrConvertToMultiple str
  | release packet => exact fun p _ => p.owned_release

theorem owned_run {calls : List (PacketCall Deleter Buffer)} (hrun : Machine.run step [] calls = some packets) :
    ∀ packet ∈ packets, packet.Owned :=
  Machine.run_preserves (P := fun packets : PacketStore Deleter Buffer => ∀ packet ∈ packets, packet.Owned)
    (fun _ _ _ => owned_step) hrun (fun _ hmem => absurd hmem List.not_mem_nil)

/-- Append is concatenation, of packets in any form that calls have led to, and every reader of a packet sees the same
    text. -/
theorem append_concatenates {calls : List (PacketCall Deleter Buffer)} (hrun : Machine.run step [] calls = some packets) :
    (∀ packet ∈ packets, packet.ReadsAs packet.text) ∧
      (∀ i j p q, i ≠ j → packets[i]? = some p → packets[j]? = some q →
        ∃ after p' q', step packets (.appendPacket i j) = some after ∧ after[i]? = some p' ∧ after[j]? = some q' ∧
          p'.ReadsAs (p.text ++ q.text) ∧ p'.size = p.size + q.size ∧ q'.ReadsAs [] ∧ p'.Owned) ∧
      ∀ i p str, packets[i]? = some p →
        ∃ after p', step packets (.append i str) = some after ∧ after[i]? = some p' ∧
          p'.ReadsAs (p.text ++ str.fragment.text) ∧ p'.size = p.size + str.fragment.size ∧ p'.Owned := by
  have howned {index : Nat} {p : Packet Deleter Buffer} (hp : packets[index]? = some p) : p.Owned :=
    owned_run hrun p (List.mem_of_getElem? hp)
  refine ⟨fun packet _ => packet.readsAs_text, fun i j p q hne hp hq => ?_, fun i p str hp => ?_⟩
  · obtain ⟨after, hafter, hp', hq', -⟩ := modifyBoth_spec Packet.appendPacket hne hp hq
    obtain ⟨htext, hleft⟩ := p.text_appendPacket q
    refine ⟨after, _, _, hafter, hp', hq', ?_, ?_, ?_, ((howned hp).appendPacket (howned hq)).1⟩
    · exact htext ▸ Packet.readsAs_text _
    · rw [Packet.size_eq, Packet.size_eq, Packet.size_eq, htext, List.length_append]
    · exact hleft ▸ Packet.readsAs_text _
  · obtain ⟨after, hafter, hp', -⟩ := modify_spec (fun p : Packet Deleter Buffer => p.append str) hp
    refine ⟨after, _, hafter, hp', ?_, ?_, (howned hp).append str⟩
    · exact p.text_append str ▸ Packet.readsAs_text _
    · rw [Packet.size_eq, Packet.size_eq, p.text_append, List.length_append, Fragment.size]

/-- A string that is the only one in its buffer -/
def stringIn (buffer : Nat) (str : SharedString) : OwnedString (List Nat) Nat where
  fragment := { text := str, buffer }
  deleter := [buffer]
  owned _ _ hbuffer := by
    cases hbuffer
    exact List.mem_singleton_self buffer

/-- A packet of a single fragment, and one of multiple fragments that has one -/
def singleAndMultiple : List (PacketCall (List Nat) Nat) :=
  [.constructString (stringIn 0 (text "a")), .constructCapacity 1, .append 1 (stringIn 1 (text "b"))]

/-- A single fragment goes to the front of those of the packet that is appended to it. -/
theorem append_concatenates_singleAndMultiple :
    ∃ packets, Machine.run step [] singleAndMultiple = some packets ∧
      ∃ after p q, step packets (.appendPacket 0 1) = some after ∧ after[0]? = some p ∧ after[1]? = some q ∧
        p.ReadsAs (text "a" ++ text "b") ∧ p.size = 1 + 1 ∧ q.ReadsAs [] ∧ p.Owned :=
  have hrun : Machine.run step [] singleAndMultiple = some _ := rfl
  ⟨_, hrun, (append_concatenates hrun).2.1 0 1 _ _ (by decide) rfl rfl⟩

end PacketStore

end cpv
