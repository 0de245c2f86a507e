import Cpv.Core.Buffer
import Cpv.Core.Loop
import Cpv.Utility.HtmlDecode

namespace cpv

/-- The pointers of `htmlDecode`, as offsets, and the buffer behind `dst`. -/
structure HtmlDecoder (size : Nat) where
  src : Nat := 0
  dst : OutputBuffer UInt8 size := .empty size

namespace HtmlDecoder

/-- The loop that finds the end of an entity's name: after it src should point to ';' or last character. -/
def nameEndRound (str : SharedString) (src : Nat) : Option (ForInStep Nat) := do
  let srcLast := str.length - 1
  let c ← str[src]?
  if c ≠ byte ';' ∧ src < srcLast then return .yield (src + 1) else return .done src

/-- What is written for the entity between two pointers. -/
def readEntity (str : SharedString) (nameBegin nameEnd : Nat) : Option SharedString := do
  let name ← str.slice? nameBegin (nameEnd + 1)
  if nameBegin + 3 ≤ nameEnd then
    let hash ← str[nameBegin + 1]?
    if hash = byte '#' then
      let mark ← str[nameBegin + 2]?
      let hex ← str.slice? (nameBegin + 3) nameEnd
      let dec ← str.slice? (nameBegin + 2) nameEnd
      -- ignore invalid code point
      return ((loadCodePoint mark hex dec).map codePointText).getD []
  -- ignore unsupported entity
  return (HtmlEntitiesMapping name).getD []

/-- A round of the loop of `htmlDecode`. It has no result where a byte outside of the string would be read, or one
    written behind the end of the buffer. -/
def decodeRound (str : SharedString) (decoder : HtmlDecoder str.length) :
    Option (ForInStep (HtmlDecoder str.length)) :=
  if decoder.src < str.length then do
    let c ← str[decoder.src]?
    if c ≠ byte '&' then
      let dst ← decoder.dst.write [c]
      return .yield { src := decoder.src + 1, dst }
    else
      let nameEnd ← Loop.run (nameEndRound str) str.length decoder.src
      let mapped ← readEntity str decoder.src nameEnd
      let dst ← decoder.dst.write mapped
      return .yield { src := nameEnd + 1, dst }
  else some (.done decoder)

/-- Decode string from html content, with every access to memory checked. -/
def decode (str : SharedString) : Option SharedString :=
  if byte '&' ∈ str then
    (Loop.run (decodeRound str) (str.length + 1) {}).map fun decoder => decoder.dst.written
  else some str

variable {str : SharedString}

/-- The text between two pointers. -/
abbrev between (str : SharedString) (start stop : Nat) : SharedString := (str.drop start).take (stop - start)

/-- The end of a name is found inside of the string. -/
theorem nameEnd_spec {nameBegin : Nat} (hbegin : nameBegin < str.length) :
    ∃ nameEnd, Loop.run (nameEndRound str) str.length nameBegin = some nameEnd ∧ nameBegin ≤ nameEnd ∧
      nameEnd < str.length ∧
      htmlDecodeLoop (str.drop nameBegin) (some []) =
        entityText (between str nameBegin (nameEnd + 1)) ++ htmlDecodeLoop (str.drop (nameEnd + 1)) none := by
  refine Loop.run_spec
    (fun src => nameBegin ≤ src ∧ src < str.length ∧
      htmlDecodeLoop (str.drop nameBegin) (some []) =
        htmlDecodeLoop (str.drop src) (some (between str nameBegin src)))
    (fun src => str.length - 1 - src) ?_ ⟨Nat.le_refl _, hbegin, by simp⟩ (by omega)
  rintro src ⟨hle, hlt, hfound⟩
  obtain ⟨c, hc⟩ : ∃ c, str[src]? = some c := ⟨_, List.getElem?_eq_getElem hlt⟩
  rw [List.drop_eq_cons hc, htmlDecodeLoop, ← List.take_drop_concat hc hle] at hfound
  have hround : nameEndRound str src =
      if c ≠ byte ';' ∧ src < str.length - 1 then some (.yield (src + 1)) else some (.done src) := by
    rw [nameEndRound, hc]
    rfl
  by_cases hmore : c ≠ byte ';' ∧ src < str.length - 1
  · rw [if_neg hmore.1] at hfound
    exact .inr ⟨src + 1, hround.trans (if_pos hmore), ⟨by omega, by omega, hfound⟩, by omega⟩
  · refine .inl ⟨src, hround.trans (if_neg hmore), hle, hlt, ?_⟩
    by_cases hsemicolon : c = byte ';'
    · rwa [if_pos hsemicolon] at hfound
    · have hlast : ¬ src < str.length - 1 := fun h => hmore ⟨hsemicolon, h⟩
      rw [hfound, if_neg hsemicolon, List.drop_eq_nil_of_le (by omega)]
      exact (List.append_nil _).symm

/-- Reading an entity touches nothing but its name. -/
theorem readEntity_eq {nameBegin nameEnd : Nat} (hle : nameBegin ≤ nameEnd) (hlt : nameEnd < str.length) :
    readEntity str nameBegin nameEnd = some (entityText (between str nameBegin (nameEnd + 1))) := by
  have hslice : str.slice? nameBegin (nameEnd + 1) = some (between str nameBegin (nameEnd + 1)) :=
    List.slice?_eq (by omega) (by omega)
  have hlength : (between str nameBegin (nameEnd + 1)).length = nameEnd + 1 - nameBegin := by
    rw [List.length_take, List.length_drop]
    omega
  have hget : ∀ k, k < nameEnd + 1 - nameBegin → (between str nameBegin (nameEnd + 1))[k]? = str[nameBegin + k]? := by
    intro k hk
    rw [List.getElem?_take_of_lt hk, List.getElem?_drop]
  have hdigits : ∀ k, ((between str nameBegin (nameEnd + 1)).drop k).dropLast = between str (nameBegin + k) nameEnd := by
    intro k
    rw [List.dropLast_eq_take, List.length_drop, hlength, between, List.drop_take, List.drop_drop, List.take_take,
      between]
    congr 1
    omega
  unfold readEntity
  rw [hslice, entityText, hlength]
  by_cases hlong : nameBegin + 3 ≤ nameEnd
  · obtain ⟨hash, hhash⟩ : ∃ hash, str[nameBegin + 1]? = some hash := ⟨_, List.getElem?_eq_getElem (by omega)⟩
    obtain ⟨mark, hmark⟩ : ∃ mark, str[nameBegin + 2]? = some mark := ⟨_, List.getElem?_eq_getElem (by omega)⟩
    have hgetD : (between str nameBegin (nameEnd + 1)).getD 2 0 = mark := by
      rw [List.getD_eq_getElem?_getD, hget 2 (by omega), hmark, Option.getD_some]
    rw [hget 1 (by omega), hhash, hgetD, hdigits, hdigits]
    have hhex : str.slice? (nameBegin + 3) nameEnd = some (between str (nameBegin + 3) nameEnd) :=
      List.slice?_eq (by omega) (by omega)
    have hdec : str.slice? (nameBegin + 2) nameEnd = some (between str (nameBegin + 2) nameEnd) :=
      List.slice?_eq (by omega) (by omega)
    simp only [if_pos hlong, Option.bind_eq_bind, Option.bind_some, hmark, hhex, hdec, Option.some.injEq]
    by_cases hnumeric : hash = byte '#'
    · rw [if_pos hnumeric, if_pos ⟨by omega, hnumeric⟩]
      cases loadCodePoint mark (between str (nameBegin + 3) nameEnd) (between str (nameBegin + 2) nameEnd) <;> rfl
    · rw [if_neg hnumeric, if_neg fun h => hnumeric h.2]
      rfl
  · simp only [if_neg hlong, Option.bind_eq_bind, Option.bind_some]
    rw [if_neg fun h => absurd h.1 (by omega)]
    rfl

theorem length_entityText_between {nameBegin nameEnd : Nat} (hle : nameBegin ≤ nameEnd) (hlt : nameEnd < str.length) :
    (entityText (between str nameBegin (nameEnd + 1))).length < nameEnd + 1 - nameBegin := by
  have hlength : (between str nameBegin (nameEnd + 1)).length = nameEnd + 1 - nameBegin := by
    rw [List.length_take, List.length_drop]
    omega
  have hshorter := @length_entityText_lt (between str nameBegin (nameEnd + 1))
    (List.ne_nil_of_length_pos (by omega))
  omega

/-- No more bytes are written than were read, all of them in the string. -/
structure Inside (decoder : HtmlDecoder str.length) : Prop where
  written_le : decoder.dst.written.length ≤ decoder.src
  src_le : decoder.src ≤ str.length

/-- A round ends the loop at the end of the string, or goes on behind what it has read, and touches nothing outside. -/
theorem Inside.round {decoder : HtmlDecoder str.length} (hinside : decoder.Inside) :
    (decodeRound str decoder = some (.done decoder) ∧ decoder.src = str.length) ∨
      ∃ after, decodeRound str decoder = some (.yield after) ∧ after.Inside ∧ decoder.src < after.src ∧
        after.dst.written ++ htmlDecodeLoop (str.drop after.src) none =
          decoder.dst.written ++ htmlDecodeLoop (str.drop decoder.src) none := by
  obtain ⟨hwritten, hsrc⟩ := hinside
  unfold decodeRound
  by_cases hend : decoder.src < str.length
  · right
    obtain ⟨c, hc⟩ : ∃ c, str[decoder.src]? = some c := ⟨_, List.getElem?_eq_getElem hend⟩
    rw [if_pos hend, hc, List.drop_eq_cons hc]
    by_cases hand : c = byte '&'
    · subst hand
      obtain ⟨nameEnd, hrun, hle, hlt, hdecoded⟩ := nameEnd_spec hend
      have hlength := length_entityText_between hle hlt
      obtain ⟨dst, hwrite, hdst⟩ := decoder.dst.write_spec
        (entityText (between str decoder.src (nameEnd + 1))) (by omega)
      have hdecode : htmlDecodeLoop (byte '&' :: str.drop (decoder.src + 1)) none =
          htmlDecodeLoop (str.drop decoder.src) (some []) := by
        rw [List.drop_eq_cons hc]
        rfl
      refine ⟨{ src := nameEnd + 1, dst }, ?_, ⟨?_, by simpa using hlt⟩, by simp only; omega, ?_⟩
      · simp [hrun, readEntity_eq hle hlt, hwrite]
      · simp only [hdst, List.length_append]
        omega
      · rw [hdst, hdecode, hdecoded, List.append_assoc]
    · obtain ⟨dst, hwrite, hdst⟩ := decoder.dst.write_spec [c] (by simp only [List.length_singleton]; omega)
      refine ⟨{ src := decoder.src + 1, dst }, ?_, ⟨?_, by simpa using hend⟩, by simp, ?_⟩
      · simp only [Option.bind_eq_bind, Option.bind_some, if_pos (show c ≠ byte '&' from hand), hwrite]
        rfl
      · simp only [hdst, List.length_append, List.length_singleton]
        omega
      · rw [hdst, htmlDecodeLoop_plain hand, List.append_assoc, List.singleton_append]
  · exact .inl ⟨if_neg hend, by omega⟩

theorem inside_start : ({} : HtmlDecoder str.length).Inside := ⟨Nat.le_refl 0, Nat.zero_le _⟩

/-- The loop of `htmlDecode` never has more bytes written than read, every round of it has a result, and so has the
    whole of it: the access to memory that would be outside of the string or of the buffer never occurs. -/
theorem htmlDecode_staysInside (str : SharedString) :
    (∀ decoder : HtmlDecoder str.length, Loop.Reached (decodeRound str) {} decoder →
        decoder.dst.written.length ≤ decoder.src ∧ decoder.src ≤ str.length ∧ (decodeRound str decoder).isSome) ∧
      decode str = some (htmlDecode str) := by
  constructor
  · intro decoder hreached
    have hinside : decoder.Inside := by
      refine hreached.preserves (fun before after hround hbefore => ?_) inside_start
      rcases hbefore.round with ⟨hdone, -⟩ | ⟨next, hyield, hnext, -⟩
      · rw [hdone] at hround
        cases hround
      · rw [hyield] at hround
        cases hround
        exact hnext
    refine ⟨hinside.written_le, hinside.src_le, ?_⟩
    rcases hinside.round with ⟨hdone, -⟩ | ⟨next, hyield, -⟩
    · rw [hdone]
      rfl
    · rw [hyield]
      rfl
  · have hrun := @Loop.run_eq _ (decodeRound str) Inside
      (fun decoder => str.length - decoder.src) _
      (fun decoder => decoder.dst.written ++ htmlDecodeLoop (str.drop decoder.src) none)
      (fun decoder => decoder.dst.written)
      (fun before hbefore => by
        rcases hbefore.round with ⟨hdone, hend⟩ | ⟨next, hyield, hnext, hmoved, hsame⟩
        · refine .inl ⟨before, hdone, ?_⟩
          rw [hend, List.drop_length]
          exact (List.append_nil _).symm
        · have hle := hnext.src_le
          exact .inr ⟨next, hyield, hnext, hsame, by omega⟩)
      _ inside_start (str.length + 1) (by simp)
    rw [decode, htmlDecode]
    split
    · exact hrun
    · rfl

end HtmlDecoder

end cpv
