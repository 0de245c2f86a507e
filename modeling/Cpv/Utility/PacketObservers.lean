import Cpv.Utility.PacketStore

namespace cpv

variable {Deleter Buffer : Type} [DeleterChain Deleter Buffer]

namespace Packet

/-- Get whether it's MultipleFragments -/
def isMultiple : Packet Deleter Buffer → Bool
  | multiple _ => true
  | _ => false

/-- Get whether it's SingleFragment -/
def isSingle : Packet Deleter Buffer → Bool
  | single _ => true
  | _ => false

/-- The observers agree on whether a packet is empty. -/
structure Agrees (packet : Packet Deleter Buffer) : Prop where
  size : packet.empty ↔ packet.size = 0
  toString : packet.empty ↔ packet.toString = some []
  segments : packet.empty ↔ packet.segments = 0

section Agrees

omit [DeleterChain Deleter Buffer]

theorem empty_iff_segments (packet : Packet Deleter Buffer) : packet.empty ↔ packet.segments = 0 := by
  cases packet with
  | multiple m => rw [empty, segments, List.isEmpty_iff, List.length_eq_zero_iff]
  | single s =>
    rw [empty, segments, beq_iff_eq]
    split <;> omega
  | valueless => simp [empty, segments]

theorem text_of_empty {packet : Packet Deleter Buffer} (hempty : packet.empty) : packet.text = [] := by
  cases packet with
  | multiple m =>
    rw [empty, List.isEmpty_iff] at hempty
    rw [text_multiple, hempty, List.flatMap_nil]
  | single s =>
    rw [empty, beq_iff_eq, Fragment.size_eq_zero] at hempty
    rw [text_single, hempty]
  | valueless => rfl

/-- The number of fragments decides, not that of bytes. -/
theorem agrees_iff {packet : Packet Deleter Buffer} : packet.Agrees ↔ (packet.text = [] → packet.empty) := by
  constructor
  · intro hagrees htext
    rw [hagrees.size, size_eq, htext, List.length_nil]
  · intro htext
    have hempty : packet.empty ↔ packet.text = [] := ⟨text_of_empty, htext⟩
    refine ⟨?_, ?_, packet.empty_iff_segments⟩
    · rw [hempty, size_eq, List.length_eq_zero_iff]
    · rw [hempty, toString_eq, Option.some.injEq]

theorem Agrees.empty_iff {packet : Packet Deleter Buffer} (hagrees : packet.Agrees) :
    packet.empty ↔ packet.text = [] := ⟨text_of_empty, agrees_iff.mp hagrees⟩

theorem agrees_single (s : SingleFragment Deleter Buffer) : (single s).Agrees := by
  rw [agrees_iff, text_single, empty, beq_iff_eq]
  exact Fragment.size_eq_zero.mpr

theorem agrees_valueless : (valueless : Packet Deleter Buffer).Agrees := agrees_iff.mpr fun _ => rfl

/-- Of a packet with fragments one must not be empty. -/
theorem agrees_multiple_iff {m : MultipleFragments Deleter Buffer} (hfragments : m.fragments ≠ []) :
    (multiple m).Agrees ↔ (multiple m).text ≠ [] := by
  rw [agrees_iff, empty, List.isEmpty_iff]
  exact ⟨fun htext hnil => hfragments (htext hnil), fun htext hnil => absurd hnil htext⟩

theorem agrees_multiple_nil {m : MultipleFragments Deleter Buffer} (hfragments : m.fragments = []) :
    (multiple m).Agrees := by
  rw [agrees_iff, empty, List.isEmpty_iff]
  exact fun _ => hfragments

end Agrees

variable {packet other : Packet Deleter Buffer}

theorem agrees_movedFrom (packet : Packet Deleter Buffer) : packet.movedFrom.Agrees := by
  cases packet with
  | single s => exact agrees_single _
  | multiple m => exact agrees_valueless
  | valueless => exact agrees_valueless

theorem agrees_release (packet : Packet Deleter Buffer) : packet.release.Agrees := by
  cases packet with
  | single s => exact agrees_single _
  | multiple m => exact agrees_multiple_nil rfl
  | valueless => exact agrees_valueless

omit [DeleterChain Deleter Buffer] in
theorem Agrees.movedToItself (hagrees : packet.Agrees) : packet.movedToItself.Agrees := by
  cases packet with
  | single s => exact agrees_single _
  | multiple m => exact hagrees
  | valueless => exact agrees_valueless

theorem Agrees.getOrConvertToMultiple (hagrees : packet.Agrees) : (multiple packet.getOrConvertToMultiple).Agrees := by
  cases packet with
  | multiple m => exact hagrees
  | single s =>
    rw [Packet.getOrConvertToMultiple]
    split
    · rename_i hsize
      rw [agrees_multiple_iff (List.cons_ne_nil _ _), text_multiple, List.flatMap_singleton]
      exact mt Fragment.size_eq_zero.mpr hsize
    · exact agrees_multiple_nil rfl
  | valueless => exact agrees_multiple_nil rfl

/-- What is put behind the fragments of a packet that is empty must not be empty. -/
theorem Agrees.appendToMultiple_iff (hagrees : packet.Agrees) (str : OwnedString Deleter Buffer) :
    (multiple (packet.getOrConvertToMultiple.append str)).Agrees ↔ (packet.empty → str.fragment.text ≠ []) := by
  rw [agrees_multiple_iff (by simp [MultipleFragments.append]), MultipleFragments.text_append, text_getOrConvertToMultiple,
    Ne, List.append_eq_nil_iff, hagrees.empty_iff, not_and]

theorem Agrees.appendStatic_iff (hagrees : packet.Agrees) (str : SharedString) :
    (multiple (packet.getOrConvertToMultiple.appendStatic str)).Agrees ↔ (packet.empty → str ≠ []) := by
  rw [agrees_multiple_iff (by simp [MultipleFragments.appendStatic]), MultipleFragments.text_appendStatic,
    text_getOrConvertToMultiple, Ne, List.append_eq_nil_iff, hagrees.empty_iff, not_and]

theorem Agrees.append_iff (hagrees : packet.Agrees) (str : OwnedString Deleter Buffer) :
    (packet.append str).Agrees ↔ (packet.isMultiple → packet.empty → str.fragment.text ≠ []) := by
  cases packet with
  | multiple m => exact (hagrees.appendToMultiple_iff str).trans (imp_iff_right rfl).symm
  | single s =>
    refine iff_of_true ?_ (fun hmultiple => absurd hmultiple Bool.false_ne_true)
    rw [append]
    split
    · exact agrees_single _
    · rename_i hsize
      rw [agrees_multiple_iff (by simp [MultipleFragments.append]), MultipleFragments.text_append, text_multiple,
        List.flatMap_singleton]
      exact fun hnil => hsize (Fragment.size_eq_zero.mpr (List.append_eq_nil_iff.mp hnil).1)
  | valueless =>
    exact iff_of_true (agrees_single _) (fun hmultiple => absurd hmultiple Bool.false_ne_true)

/-- One of two packets has multiple fragments and the other one a single fragment. -/
def Mixed (packet other : Packet Deleter Buffer) : Prop :=
  packet.isMultiple ∧ other.isSingle ∨ packet.isSingle ∧ other.isMultiple

theorem agrees_appendPacket_other (hother : other.Agrees) : (packet.appendPacket other).2.Agrees := by
  cases packet with
  | valueless => exact agrees_movedFrom other
  | multiple this =>
    cases other with
    | multiple that => exact agrees_multiple_nil rfl
    | single that => exact agrees_single _
    | valueless => exact agrees_valueless
  | single this =>
    cases other with
    | multiple that => exact agrees_valueless
    | single that =>
      rw [appendPacket]
      repeat' split
      all_goals exact agrees_single _
    | valueless => exact agrees_valueless

/-- Of two packets that are both empty, a single fragment is put into the fragments of the other one. -/
theorem Agrees.appendPacket_iff (hagrees : packet.Agrees) (hother : other.Agrees) :
    (packet.appendPacket other).1.Agrees ↔ (Mixed packet other → packet.empty → ¬ other.empty) := by
  -- where the fragment of a single one is among those of the result
  have hmixed {m : MultipleFragments Deleter Buffer} (happend : (packet.appendPacket other).1 = multiple m)
      (hfragments : m.fragments ≠ []) (hmixed : Mixed packet other) :
      (packet.appendPacket other).1.Agrees ↔ (Mixed packet other → packet.empty → ¬ other.empty) := by
    have htext := (packet.text_appendPacket other).1
    rw [happend] at htext ⊢
    rw [agrees_multiple_iff hfragments, htext, Ne, List.append_eq_nil_iff, hagrees.empty_iff, hother.empty_iff, not_and,
      imp_iff_right hmixed]
  have hunmixed (hresult : (packet.appendPacket other).1.Agrees) (hunmixed : ¬ Mixed packet other) :
      (packet.appendPacket other).1.Agrees ↔ (Mixed packet other → packet.empty → ¬ other.empty) :=
    iff_of_true hresult fun hmixed => absurd hmixed hunmixed
  cases packet with
  | valueless => exact hunmixed hother (by simp [Mixed, isMultiple, isSingle])
  | multiple this =>
    cases other with
    | multiple that =>
      refine hunmixed (agrees_iff.mpr fun htext => ?_) (by simp [Mixed, isSingle])
      rw [(text_appendPacket _ _).1, List.append_eq_nil_iff] at htext
      have hthis := hagrees.empty_iff.mpr htext.1
      have hthat := hother.empty_iff.mpr htext.2
      rw [empty, List.isEmpty_iff] at hthis hthat
      rw [appendPacket, empty, List.isEmpty_iff, hthis, hthat, List.append_nil]
    | single that => exact hmixed rfl (by simp) (.inl ⟨rfl, rfl⟩)
    | valueless => exact hunmixed hagrees (by simp [Mixed, isMultiple, isSingle])
  | single this =>
    cases other with
    | multiple that => exact hmixed rfl (List.cons_ne_nil _ _) (.inr ⟨rfl, rfl⟩)
    | single that =>
      refine hunmixed ?_ (by simp [Mixed, isMultiple])
      rw [appendPacket]
      split
      · exact agrees_single _
      split
      · rename_i hsize hother
        rw [agrees_multiple_iff (List.cons_ne_nil _ _), text_multiple, List.flatMap_cons]
        exact fun hnil => hsize (Fragment.size_eq_zero.mpr (List.append_eq_nil_iff.mp hnil).1)
      · exact agrees_single _
    | valueless => exact hunmixed hagrees (by simp [Mixed, isMultiple, isSingle])

end Packet

namespace PacketStore

open Objects

/-- Nothing that is empty is put into the fragments of a packet that has no bytes. -/
def KeepsAgreement (packets : PacketStore Deleter Buffer) : PacketCall Deleter Buffer → Prop
  | .append packet str =>
    ∀ p, packets[packet]? = some p → p.isMultiple → p.empty → str.fragment.text ≠ []
  | .appendToMultiple packet str => ∀ p, packets[packet]? = some p → p.empty → str.fragment.text ≠ []
  | .appendStatic packet str => ∀ p, packets[packet]? = some p → p.empty → str ≠ []
  | .appendPacket packet other => ∀ p q, packets[packet]? = some p → packets[other]? = some q →
      Packet.Mixed p q → p.empty → ¬ q.empty
  | _ => True

/-- The observers agree, for every packet there is after a call. -/
def AgreesAfter (packets : PacketStore Deleter Buffer) (call : PacketCall Deleter Buffer) : Prop :=
  ∀ after, step packets call = some after → ∀ packet ∈ after, packet.Agrees

variable {packets : PacketStore Deleter Buffer}

theorem agreesAfter_iff (hagrees : ∀ packet ∈ packets, packet.Agrees) (call : PacketCall Deleter Buffer) :
    packets.AgreesAfter call ↔ packets.KeepsAgreement call := by
  rw [AgreesAfter, forall_step_iff hagrees]
  have hagrees' {index : Nat} {p : Packet Deleter Buffer} (hp : packets[index]? = some p) : p.Agrees :=
    hagrees p (List.mem_of_getElem? hp)
  cases call with
  | construct => exact iff_true_intro (Packet.agrees_single _)
  | constructString str => exact iff_true_intro (Packet.agrees_single _)
  | constructCapacity capacity => exact iff_true_intro (Packet.agrees_multiple_nil rfl)
  | constructMove other => exact iff_true_intro fun p _ => p.agrees_movedFrom
  | assignMove packet other =>
    refine iff_true_intro ?_
    rw [Leaves]
    split
    · exact fun p hp => (hagrees' hp).movedToItself
    · exact fun p q _ hq => ⟨hagrees' hq, q.agrees_movedFrom⟩
  | getOrConvertToMultiple packet => exact iff_true_intro fun p hp => (hagrees' hp).getOrConvertToMultiple
  | append packet str => exact forall₂_congr fun p hp => (hagrees' hp).append_iff str
  | appendPacket packet other =>
    constructor
    · intro hleaves p q hp hq hmixed
      have hne : packet ≠ other := by
        rintro rfl
        obtain rfl := Option.some.inj (hp.symm.trans hq)
        cases p <;> simp [Packet.Mixed, Packet.isMultiple, Packet.isSingle] at hmixed
      exact ((hagrees' hp).appendPacket_iff (hagrees' hq)).mp (hleaves hne p q hp hq).1 hmixed
    · intro hkeeps _ p q hp hq
      exact ⟨((hagrees' hp).appendPacket_iff (hagrees' hq)).mpr (hkeeps p q hp hq),
        Packet.agrees_appendPacket_other (hagrees' hq)⟩
  | appendToMultiple packet str => exact forall₂_congr fun p hp => (hagrees' hp).appendToMultiple_iff str
  | appendStatic packet str => exact forall₂_congr fun p hp => (hagrees' hp).appendStatic_iff str
  | release packet => exact iff_true_intro fun p _ => p.agrees_release

/-- The observers of all packets agree all along a run exactly when no call of it puts something empty into fragments
    that are all there is. -/
theorem observers_agree_iff (calls : List (PacketCall Deleter Buffer)) :
    Machine.Conforms step AgreesAfter [] calls ↔ Machine.Conforms step KeepsAgreement [] calls :=
  Machine.conforms_congr_of_ok (P := fun packets : PacketStore Deleter Buffer => ∀ packet ∈ packets, packet.Agrees)
    (fun _ _ after hagrees hstep _ => hagrees after hstep) (fun _ call hagrees => agreesAfter_iff hagrees call)
    (fun _ hmem => absurd hmem List.not_mem_nil) calls

/-- An empty string is appended to a packet that was constructed with a capacity. -/
def emptyAppended : List (PacketCall (List Nat) Nat) := [.constructCapacity 1, .append 0 (stringIn 0 [])]

theorem not_observers_agree_emptyAppended :
    ∃ packet, Machine.run step [] emptyAppended = some [packet] ∧ packet.empty = false ∧ packet.size = 0 ∧
      packet.toString = some [] ∧ packet.segments = 1 ∧ ¬ packet.Agrees :=
  ⟨_, rfl, rfl, rfl, rfl, rfl, fun hagrees => absurd (hagrees.size.mpr rfl) Bool.false_ne_true⟩

end PacketStore

end cpv
