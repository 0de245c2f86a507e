import Cpv.Utility.Packet

namespace cpv

variable {Deleter Buffer : Type} [DeleterChain Deleter Buffer]

open DeleterChain

namespace Fragment

variable {fragment : Fragment Buffer} {first second : Deleter}

theorem OwnedBy.append_left (howned : fragment.OwnedBy first) (second : Deleter) :
    fragment.OwnedBy (DeleterChain.append first second) :=
  fun hne buffer hbuffer => owns_append first second buffer (.inl (howned hne buffer hbuffer))

theorem OwnedBy.append_right (howned : fragment.OwnedBy second) (first : Deleter) :
    fragment.OwnedBy (DeleterChain.append first second) :=
  fun hne buffer hbuffer => owns_append first second buffer (.inr (howned hne buffer hbuffer))

theorem ownedBy_cleared (fragment : Fragment Buffer) (deleter : Deleter) : fragment.cleared.OwnedBy deleter :=
  fun hne => absurd rfl hne

omit [DeleterChain Deleter Buffer] in
theorem size_eq_zero : fragment.size = 0 ↔ fragment.text = [] := List.length_eq_zero_iff

end Fragment

namespace Packet

/-- Every fragment that is not empty is kept alive by the deleter of the packet. -/
def Owned : Packet Deleter Buffer → Prop
  | multiple m => ∀ fragment ∈ m.fragments, fragment.OwnedBy m.deleter
  | single s => s.fragment.OwnedBy s.deleter
  | valueless => True

theorem owned_movedFrom (packet : Packet Deleter Buffer) : packet.movedFrom.Owned := by
  cases packet with
  | single s => exact Fragment.ownedBy_cleared _ _
  | multiple m => trivial
  | valueless => trivial

omit [DeleterChain Deleter Buffer] in
theorem text_multiple (m : MultipleFragments Deleter Buffer) : (multiple m).text = m.fragments.flatMap Fragment.text := rfl

omit [DeleterChain Deleter Buffer] in
theorem text_single (s : SingleFragment Deleter Buffer) : (single s).text = s.fragment.text :=
  List.flatMap_singleton ..

theorem text_movedFrom (packet : Packet Deleter Buffer) : packet.movedFrom.text = [] := by
  cases packet <;> rfl

theorem text_getOrConvertToMultiple (packet : Packet Deleter Buffer) :
    (multiple packet.getOrConvertToMultiple).text = packet.text := by
  cases packet with
  | multiple m => rfl
  | single s =>
    rw [getOrConvertToMultiple]
    by_cases hempty : s.fragment.size = 0
    · rw [if_neg (not_not_intro hempty), text_single, Fragment.size_eq_zero.mp hempty]
      rfl
    · rw [if_pos hempty]
      rfl
  | valueless => rfl

theorem Owned.getOrConvertToMultiple {packet : Packet Deleter Buffer} (howned : packet.Owned) :
    (multiple packet.getOrConvertToMultiple).Owned := by
  cases packet with
  | multiple m => exact howned
  | single s =>
    rw [Packet.getOrConvertToMultiple]
    split
    · intro fragment hmem
      rw [List.mem_singleton.mp hmem]
      exact howned
    · exact fun fragment hmem => absurd hmem List.not_mem_nil
  | valueless => exact fun fragment hmem => absurd hmem List.not_mem_nil

end Packet

namespace MultipleFragments

variable {m : MultipleFragments Deleter Buffer}

theorem owned_append (howned : (Packet.multiple m).Owned) (str : OwnedString Deleter Buffer) :
    (Packet.multiple (m.append str)).Owned := by
  intro fragment hmem
  rcases List.mem_append.mp hmem with hmem | hmem
  · exact (howned fragment hmem).append_left str.deleter
  · rw [List.mem_singleton.mp hmem]
    exact str.owned.append_right m.deleter

theorem text_append (m : MultipleFragments Deleter Buffer) (str : OwnedString Deleter Buffer) :
    (Packet.multiple (m.append str)).text = (Packet.multiple m).text ++ str.fragment.text := by
  simp [Packet.text, Packet.fragments, append]

omit [DeleterChain Deleter Buffer] in
theorem text_appendStatic (m : MultipleFragments Deleter Buffer) (str : SharedString) :
    (Packet.multiple (m.appendStatic str)).text = (Packet.multiple m).text ++ str := by
  simp [Packet.text, Packet.fragments, appendStatic]

theorem owned_appendStatic (howned : (Packet.multiple m).Owned) (str : SharedString) :
    (Packet.multiple (m.appendStatic str)).Owned := by
  intro fragment hmem
  rcases List.mem_append.mp hmem with hmem | hmem
  · exact howned fragment hmem
  · rw [List.mem_singleton.mp hmem]
    exact fun _ buffer hbuffer => absurd hbuffer (by simp)

end MultipleFragments

namespace Packet

variable {packet other : Packet Deleter Buffer}

theorem text_append (packet : Packet Deleter Buffer) (str : OwnedString Deleter Buffer) :
    (packet.append str).text = packet.text ++ str.fragment.text := by
  cases packet with
  | multiple m => exact m.text_append str
  | single s =>
    rw [append, text_single]
    split
    · rename_i hempty
      rw [Fragment.size_eq_zero.mp hempty]
      exact text_single _
    · rw [MultipleFragments.text_append, text_multiple, List.flatMap_singleton]
  | valueless => exact text_single _

theorem Owned.append (howned : packet.Owned) (str : OwnedString Deleter Buffer) : (packet.append str).Owned := by
  cases packet with
  | multiple m => exact MultipleFragments.owned_append howned str
  | single s =>
    rw [Packet.append]
    split
    · exact str.owned
    · refine MultipleFragments.owned_append (fun fragment hmem => ?_) str
      rw [List.mem_singleton.mp hmem]
      exact howned
  | valueless => exact str.owned

/-- The text of both becomes the text of one, and nothing is left in the other. -/
theorem text_appendPacket (packet other : Packet Deleter Buffer) :
    (packet.appendPacket other).1.text = packet.text ++ other.text ∧ (packet.appendPacket other).2.text = [] := by
  cases packet with
  | valueless => exact ⟨rfl, text_movedFrom other⟩
  | multiple this =>
    cases other with
    | multiple that => exact ⟨List.flatMap_append, rfl⟩
    | single that =>
      refine ⟨?_, text_movedFrom (single that)⟩
      rw [appendPacket, text_multiple, text_multiple, text_single, List.flatMap_append, List.flatMap_singleton]
    | valueless => exact ⟨(List.append_nil _).symm, rfl⟩
  | single this =>
    cases other with
    | multiple that => exact ⟨by rw [appendPacket, text_multiple, List.flatMap_cons, text_single, text_multiple], rfl⟩
    | single that =>
      rw [appendPacket]
      by_cases hempty : this.fragment.size = 0
      · rw [if_pos hempty]
        exact ⟨by rw [text_single this, Fragment.size_eq_zero.mp hempty, List.nil_append],
          text_movedFrom (single that)⟩
      · by_cases hother : that.fragment.size = 0
        · rw [if_neg hempty, if_neg (not_not_intro hother)]
          have hnothing : (single that).text = [] := (text_single that).trans (Fragment.size_eq_zero.mp hother)
          exact ⟨by rw [hnothing, List.append_nil], hnothing⟩
        · rw [if_neg hempty, if_pos hother]
          refine ⟨?_, text_movedFrom (single that)⟩
          rw [text_multiple, List.flatMap_cons, List.flatMap_singleton, text_single, text_single]
    | valueless => exact ⟨(List.append_nil _).symm, rfl⟩

theorem owned_new : (multiple (MultipleFragments.new : MultipleFragments Deleter Buffer)).Owned :=
  fun _ hmem => absurd hmem List.not_mem_nil

theorem Owned.appendPacket (howned : packet.Owned) (hother : other.Owned) :
    (packet.appendPacket other).1.Owned ∧ (packet.appendPacket other).2.Owned := by
  cases packet with
  | valueless => exact ⟨hother, owned_movedFrom other⟩
  | multiple this =>
    cases other with
    | multiple that =>
      refine ⟨fun fragment hmem => ?_, owned_new⟩
      rcases List.mem_append.mp hmem with hmem | hmem
      · exact (howned fragment hmem).append_left that.deleter
      · exact (hother fragment hmem).append_right this.deleter
    | single that =>
      refine ⟨fun fragment hmem => ?_, owned_movedFrom (single that)⟩
      rcases List.mem_append.mp hmem with hmem | hmem
      · exact (howned fragment hmem).append_left that.deleter
      · rw [List.mem_singleton.mp hmem]
        exact Fragment.OwnedBy.append_right hother this.deleter
    | valueless => exact ⟨howned, hother⟩
  | single this =>
    cases other with
    | multiple that =>
      refine ⟨fun fragment hmem => ?_, trivial⟩
      rcases List.mem_cons.mp hmem with rfl | hmem
      · exact Fragment.OwnedBy.append_right howned that.deleter
      · exact (hother fragment hmem).append_left this.deleter
    | single that =>
      rw [Packet.appendPacket]
      split
      · exact ⟨hother, owned_movedFrom (single that)⟩
      split
      · refine ⟨fun fragment hmem => ?_, owned_movedFrom (single that)⟩
        rcases List.mem_cons.mp hmem with rfl | hmem
        · exact Fragment.OwnedBy.append_left howned that.deleter
        · rw [List.mem_singleton.mp hmem]
          exact Fragment.OwnedBy.append_right hother this.deleter
      · exact ⟨howned, hother⟩
    | valueless => exact ⟨howned, hother⟩

end Packet

namespace Packet

omit [DeleterChain Deleter Buffer]

variable (packet : Packet Deleter Buffer)

theorem size_eq : packet.size = packet.text.length := by
  have hfold : ∀ (fragments : List (Fragment Buffer)) (size : Nat),
      fragments.foldl (fun size f => size + f.size) size = size + (fragments.flatMap Fragment.text).length := by
    intro fragments
    induction fragments with
    | nil => exact fun size => rfl
    | cons fragment fragments ih =>
      intro size
      rw [List.foldl_cons, ih, List.flatMap_cons, List.length_append, Nat.add_assoc]
      rfl
  cases packet with
  | multiple m => exact (hfold m.fragments 0).trans (Nat.zero_add _)
  | single s =>
    rw [text_single]
    rfl
  | valueless => rfl

/-- A buffer that has room for the fragments has all of them written to it. -/
theorem foldlM_write {size : Nat} (fragments : List (Fragment Buffer)) (str : OutputBuffer UInt8 size)
    (hroom : str.written.length + (fragments.flatMap Fragment.text).length ≤ size) :
    ∃ after, fragments.foldlM (fun (str : OutputBuffer UInt8 size) f => if 0 < f.size then str.write f.text else some str)
        str = some after ∧ after.written = str.written ++ fragments.flatMap Fragment.text := by
  induction fragments generalizing str with
  | nil => exact ⟨str, rfl, (List.append_nil _).symm⟩
  | cons fragment fragments ih =>
    rw [List.flatMap_cons, List.length_append] at hroom
    rw [List.foldlM_cons, List.flatMap_cons]
    by_cases hempty : fragment.text = []
    · rw [if_neg (by rw [Fragment.size, hempty]; decide), hempty]
      exact ih str (by omega)
    · obtain ⟨next, hwrite, hnext⟩ := str.write_spec fragment.text (by omega)
      have hsize : 0 < fragment.size := List.length_pos_iff.mpr hempty
      rw [if_pos hsize, hwrite]
      obtain ⟨after, hafter, hwritten⟩ := ih next (by rw [hnext, List.length_append]; omega)
      exact ⟨after, hafter, by rw [hwritten, hnext, List.append_assoc]⟩

/-- The buffer of the string is exactly filled. -/
theorem toString_eq : packet.toString = some packet.text := by
  cases packet with
  | multiple m =>
    have hsize := size_eq (multiple m)
    obtain ⟨after, hafter, hwritten⟩ := foldlM_write m.fragments ({} : OutputBuffer UInt8 (multiple m).size)
      (by rw [hsize, text_multiple]; simp)
    rw [List.nil_append] at hwritten
    rw [toString, hafter]
    simp only [Option.bind_eq_bind, Option.bind_some, hwritten]
    rw [if_pos (by rw [hsize, text_multiple])]
    rfl
  | single s => rw [text_single]; rfl
  | valueless => rfl

theorem print_eq (stream : SharedString) : packet.print stream = stream ++ packet.text := by
  have hfold : ∀ (fragments : List (Fragment Buffer)) (stream : SharedString),
      fragments.foldl (fun stream f => stream ++ f.text) stream = stream ++ fragments.flatMap Fragment.text := by
    intro fragments
    induction fragments with
    | nil => exact fun stream => (List.append_nil stream).symm
    | cons fragment fragments ih =>
      intro stream
      rw [List.foldl_cons, ih, List.flatMap_cons, List.append_assoc]
  cases packet with
  | multiple m => exact hfold m.fragments stream
  | single s => rw [text_single]; rfl
  | valueless => exact (List.append_nil stream).symm

/-- What is written to a builder is put behind what it has. -/
theorem writeTo_spec {builder : SharedStringBuilder} (hbuilder : builder.WellFormed) :
    (packet.writeTo builder).WellFormed ∧ (packet.writeTo builder).view = builder.view ++ packet.text := by
  have hfold : ∀ (fragments : List (Fragment Buffer)) (builder : SharedStringBuilder), builder.WellFormed →
      (fragments.foldl (fun builder f => builder.append f.text) builder).WellFormed ∧
        (fragments.foldl (fun builder f => builder.append f.text) builder).view =
          builder.view ++ fragments.flatMap Fragment.text := by
    intro fragments
    induction fragments with
    | nil => exact fun builder hbuilder => ⟨hbuilder, (List.append_nil _).symm⟩
    | cons fragment fragments ih =>
      intro builder hbuilder
      obtain ⟨happend, hview⟩ := hbuilder.append fragment.text
      obtain ⟨hwellFormed, hrest⟩ := ih _ happend
      refine ⟨hwellFormed, ?_⟩
      rw [List.foldl_cons, hrest, hview, List.flatMap_cons, List.append_assoc]
  cases packet with
  | multiple m =>
    obtain ⟨hreserve, hview⟩ := hbuilder.wellFormed_reserve (builder.size + (multiple m).size)
    obtain ⟨hwellFormed, hrest⟩ := hfold m.fragments _ hreserve
    exact ⟨hwellFormed, by rw [writeTo, hrest, hview, text_multiple]⟩
  | single s =>
    rw [text_single]
    exact hbuilder.append s.fragment.text
  | valueless => exact ⟨hbuilder, (List.append_nil _).symm⟩

end Packet

end cpv
