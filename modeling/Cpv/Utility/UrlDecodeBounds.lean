import Cpv.Core.Buffer
import Cpv.Core.Loop
import Cpv.Utility.HttpUtils

namespace cpv

/-- The pointers of `urlDecode`, as offsets, the buffer behind `dst` and the value of the last escape. -/
structure UrlDecoder (size : Nat) where
  src : Nat := 0
  dst : OutputBuffer UInt8 size := .empty size
  charFromHex : UInt8 := 0

namespace UrlDecoder

/-- A round of the loop of `urlDecode`. It has no result where a byte outside of the string would be read, or one
    written behind the end of the buffer. -/
def decodeRound (str : SharedString) (decoder : UrlDecoder str.length) : Option (ForInStep (UrlDecoder str.length)) :=
  if decoder.src < str.length then do
    let c ← str[decoder.src]?
    if c = byte '%' then
      if decoder.src + 2 < str.length then
        let hex ← str.slice? (decoder.src + 1) (decoder.src + 3)
        let charFromHex := ((loadIntFromHex 8 hex).map UInt8.ofBitVec).getD decoder.charFromHex
        let dst ← decoder.dst.write [charFromHex]
        return .yield { src := decoder.src + 3, dst, charFromHex }
      else
        -- ignore invalid tail '%' or '%x'
        return .yield { decoder with src := decoder.src + 3 }
    else
      let dst ← decoder.dst.write [if c = byte '+' then byte ' ' else c]
      return .yield { decoder with src := decoder.src + 1, dst }
  else some (.done decoder)

/-- Decode string from url parts, with every access to memory checked. -/
def decode (str : SharedString) : Option SharedString :=
  if str.any fun c => c == byte '%' || c == byte '+' then
    (Loop.run (decodeRound str) (str.length + 1) {}).map fun decoder => decoder.dst.written
  else some str

variable {str : SharedString}

/-- What the decoder has written and what it will still write. -/
def result (decoder : UrlDecoder str.length) : SharedString :=
  decoder.dst.written ++ urlDecodeLoop (str.drop decoder.src) decoder.charFromHex

/-- A round ends the loop behind the string, or goes on behind what it has read, and touches nothing outside. -/
theorem round_spec {decoder : UrlDecoder str.length} (hwritten : decoder.dst.written.length ≤ decoder.src) :
    (decodeRound str decoder = some (.done decoder) ∧ str.length ≤ decoder.src) ∨
      ∃ after, decodeRound str decoder = some (.yield after) ∧ after.dst.written.length ≤ after.src ∧
        decoder.src < after.src ∧ decoder.src < str.length ∧ after.result = decoder.result := by
  unfold decodeRound result
  by_cases hend : decoder.src < str.length
  · right
    obtain ⟨c, hc⟩ : ∃ c, str[decoder.src]? = some c := ⟨_, List.getElem?_eq_getElem hend⟩
    have hwrite := fun value => decoder.dst.write_spec [value] (by rw [List.length_singleton]; omega)
    rw [if_pos hend, hc, List.drop_eq_cons hc]
    simp only [Option.bind_eq_bind, Option.bind_some]
    by_cases hpercent : c = byte '%'
    · subst hpercent
      by_cases htail : decoder.src + 2 < str.length
      · have hslice := @List.slice?_eq _ str (decoder.src + 1) (decoder.src + 3) (by omega) (by omega)
        obtain ⟨a, ha⟩ : ∃ a, str[decoder.src + 1]? = some a := ⟨_, List.getElem?_eq_getElem (by omega)⟩
        obtain ⟨b, hb⟩ : ∃ b, str[decoder.src + 2]? = some b := ⟨_, List.getElem?_eq_getElem (by omega)⟩
        rw [List.drop_eq_cons ha, List.drop_eq_cons hb,
          show decoder.src + 3 - (decoder.src + 1) = 2 by omega] at hslice
        simp only [List.take_succ_cons, List.take_zero] at hslice
        rw [List.drop_eq_cons ha, List.drop_eq_cons hb, urlDecodeLoop_percent]
        simp only [if_true, if_pos htail, hslice, Option.bind_some]
        obtain ⟨dst, hdst, hafter⟩ := hwrite (((loadIntFromHex 8 [a, b]).map UInt8.ofBitVec).getD decoder.charFromHex)
        rw [hdst]
        refine ⟨_, rfl, ?_, by simp only; omega, hend, ?_⟩
        · simp only [hafter, List.length_append, List.length_singleton]
          omega
        · simp only [hafter, List.append_assoc, List.singleton_append]
      · rw [urlDecodeLoop_tail (by rw [List.length_drop]; omega)]
        simp only [if_true, if_neg htail]
        refine ⟨_, rfl, by simp only; omega, by simp only; omega, hend, ?_⟩
        simp only
        rw [List.drop_eq_nil_of_le (by omega), urlDecodeLoop]
    · rw [urlDecodeLoop_plain hpercent]
      simp only [if_neg hpercent]
      obtain ⟨dst, hdst, hafter⟩ := hwrite (if c = byte '+' then byte ' ' else c)
      rw [hdst]
      refine ⟨_, rfl, ?_, by simp only; omega, hend, ?_⟩
      · simp only [hafter, List.length_append, List.length_singleton]
        omega
      · simp only [hafter, List.append_assoc, List.singleton_append]
  · exact .inl ⟨if_neg hend, by omega⟩

/-- Every round of `urlDecode` has a result, and none leaves more bytes written than read. -/
theorem reached_spec {decoder : UrlDecoder str.length} (hreached : Loop.Reached (decodeRound str) {} decoder) :
    decoder.dst.written.length ≤ min decoder.src str.length ∧ (decodeRound str decoder).isSome := by
  have hwritten : decoder.dst.written.length ≤ decoder.src := by
    refine hreached.preserves (P := fun decoder => decoder.dst.written.length ≤ decoder.src)
      (fun before after hround hbefore => ?_) (Nat.le_refl 0)
    rcases round_spec hbefore with ⟨hdone, -⟩ | ⟨next, hyield, hnext, -⟩
    · rw [hdone] at hround
      cases hround
    · rw [hyield] at hround
      cases hround
      exact hnext
  refine ⟨le_min hwritten decoder.dst.fits, ?_⟩
  rcases round_spec hwritten with ⟨hdone, -⟩ | ⟨next, hyield, -⟩
  · rw [hdone]
    rfl
  · rw [hyield]
    rfl

/-- No access of `urlDecode` to memory is outside of the string or of the buffer. -/
theorem decode_eq (str : SharedString) : decode str = some (urlDecode str) := by
  have hrun := @Loop.run_eq _ (decodeRound str)
    (fun decoder => decoder.dst.written.length ≤ decoder.src)
    (fun decoder => str.length - decoder.src) _ result (fun decoder => decoder.dst.written)
    (fun before hbefore => by
      rcases round_spec hbefore with ⟨hdone, hend⟩ | ⟨next, hyield, hnext, hmoved, hlt, hsame⟩
      · refine .inl ⟨before, hdone, ?_⟩
        rw [result, List.drop_eq_nil_of_le hend]
        exact (List.append_nil _).symm
      · exact .inr ⟨next, hyield, hnext, hsame, by omega⟩)
    {} (Nat.le_refl 0) (str.length + 1) (by simp)
  rw [decode, urlDecode]
  split
  · exact hrun
  · rfl

end UrlDecoder

end cpv
