import Gatehouse.Access.Codec
import Gatehouse.Http.Service
import Gatehouse.Proofs.Bytes.Base64
import Gatehouse.Proofs.Text.Utf8

/-!
# Gatehouse.Proofs.Http.Bearer

A header that carries an access token. The token of a request is what stands after `Bearer ` in a
header of plain characters (`bearer_eq_ok_iff`). A sealed token has plain characters only, so a
request that gives it there is a request with this token (`bearer_sealed`).
-/

namespace Gatehouse

def PlainChar (c : Char) : Prop := (32 ≤ c.toNat ∧ c.toNat < 127) ∨ c.toNat = 9

instance (c : Char) : Decidable (PlainChar c) := inferInstanceAs (Decidable (_ ∨ _))

theorem PlainChar.lt {c : Char} (h : PlainChar c) : c.toNat < 0x80 := by
  rcases h with h | h <;> omega

namespace Base64

theorem plain_encodeChars {bytes : List UInt8} {c : Char} (h : c ∈ url.encodeChars bytes) :
    PlainChar c := by
  have hdigits : ∀ m : Fin 64, PlainChar (url.digit m) := by decide
  exact forall_mem_encodeChars hdigits h

end Base64

theorem AccessCodec.plain_sealed {key : List UInt8} {payload : Json} {c : Char}
    (h : c ∈ (sealed key payload).toList) : PlainChar c := by
  have hdot : PlainChar '.' := by decide
  simp only [sealed, String.toList_ofList, List.cons_append, List.append_assoc, List.mem_append,
    List.mem_cons] at h
  rcases h with h | rfl | h | rfl | h
  · exact Base64.plain_encodeChars h
  · exact hdot
  · exact Base64.plain_encodeChars h
  · exact hdot
  · exact Base64.plain_encodeChars h

namespace Http

/-! ## The text of a header -/

theorem Request.isPlain_iff {b : UInt8} :
    isPlain b = true ↔ (32 ≤ b.toNat ∧ b.toNat < 127) ∨ b.toNat = 9 := by
  simp only [isPlain, Bool.or_eq_true, Bool.and_eq_true, decide_eq_true_eq,
    UInt8.le_iff_toNat_le, UInt8.lt_iff_toNat_lt, ← UInt8.toNat_inj]
  rfl

theorem Request.plainText?_encode {s : String} (h : ∀ c ∈ s.toList, PlainChar c) :
    plainText? (Utf8.encode s) = some s := by
  have hbyte {c : Char} (hc : c ∈ s.toList) : (UInt8.ofNat c.toNat).toNat = c.toNat :=
    Utf8.toNat_ofNat (by have := (h c hc).lt; omega)
  rw [Utf8.encode_ascii fun c hc => (h c hc).lt, plainText?, if_pos]
  · have hchars : (s.toList.map fun c => UInt8.ofNat c.toNat).map (fun b => Char.ofNat b.toNat) =
        s.toList := by
      have hsame : ∀ c ∈ s.toList, Char.ofNat (UInt8.ofNat c.toNat).toNat = id c := by
        intro c hc
        rw [hbyte hc, Char.ofNat_toNat, id_eq]
      rw [List.map_map]
      exact (List.map_congr_left hsame).trans (List.map_id _)
    rw [hchars, String.ofList_toList]
  · rw [List.all_eq_true]
    intro b hb
    obtain ⟨c, hc, rfl⟩ := List.mem_map.mp hb
    rw [isPlain_iff, hbyte hc]
    exact h c hc

theorem Request.plainText?_eq_some_iff {value : List UInt8} {s : String} :
    plainText? value = some s ↔ value = Utf8.encode s ∧ ∀ c ∈ s.toList, PlainChar c := by
  constructor
  · intro h
    unfold plainText? at h
    split_ifs at h with hplain
    cases h
    have hchar {b : UInt8} (hb : b ∈ value) :
        (Char.ofNat b.toNat).toNat = b.toNat ∧ PlainChar (Char.ofNat b.toNat) := by
      have hb := isPlain_iff.mp (List.all_eq_true.mp hplain b hb)
      have htoNat : (Char.ofNat b.toNat).toNat = b.toNat := by
        rw [Char.ofNat, dif_pos (.inl (by omega))]
        rfl
      rw [PlainChar, htoNat]
      exact ⟨rfl, hb⟩
    have hchars : ∀ c ∈ (String.ofList (value.map fun b => Char.ofNat b.toNat)).toList,
        PlainChar c := by
      rw [String.toList_ofList]
      intro c hc
      obtain ⟨b, hb, rfl⟩ := List.mem_map.mp hc
      exact (hchar hb).2
    refine ⟨?_, hchars⟩
    have hsame : ∀ b ∈ value, UInt8.ofNat (Char.ofNat b.toNat).toNat = id b := by
      intro b hb
      rw [(hchar hb).1, UInt8.ofNat_toNat, id_eq]
    rw [Utf8.encode_ascii fun c hc => (hchars c hc).lt, String.toList_ofList, List.map_map]
    exact ((List.map_congr_left hsame).trans (List.map_id _)).symm
  · rintro ⟨rfl, h⟩
    exact plainText?_encode h

theorem afterMark?_append (mark s : String) : afterMark? mark (mark ++ s) = some s := by
  simp only [afterMark?, String.toList_append]
  rw [if_pos (List.isPrefixOf_iff_prefix.mpr (List.prefix_append _ _)), ← String.length_toList,
    List.drop_left, String.ofList_toList]

theorem afterMark?_eq_some_iff {mark s t : String} :
    afterMark? mark s = some t ↔ s = mark ++ t := by
  constructor
  · intro h
    have hprefix : mark.toList.isPrefixOf s.toList = true := by
      by_contra hnot
      rw [afterMark?, if_neg hnot] at h
      cases h
    obtain ⟨rest, hrest⟩ := List.isPrefixOf_iff_prefix.mp hprefix
    have hs : s = mark ++ String.ofList rest := by
      rw [← String.toList_inj, String.toList_append, String.toList_ofList, hrest]
    rw [hs, afterMark?_append] at h
    rw [hs, Option.some.inj h]
  · rintro rfl
    exact afterMark?_append mark t

/-! ## The token of a request -/

/-- The token that a request carries is what its header says after the mark. -/
theorem bearer_eq_ok_iff {r : Request} {token : String} :
    bearer r = .ok token ↔ r.header? "authorization" = some (Utf8.encode ("Bearer " ++ token)) ∧
      ∀ c ∈ token.toList, PlainChar c := by
  constructor
  · intro h
    unfold bearer at h
    split at h
    · cases h
    · rename_i value hheader
      split at h
      · cases h
      · rename_i text htext
        split at h
        · cases h
        · rename_i t hmark
          cases h
          obtain ⟨rfl, hplain⟩ := Request.plainText?_eq_some_iff.mp htext
          obtain rfl := afterMark?_eq_some_iff.mp hmark
          refine ⟨hheader, fun c hc => hplain c ?_⟩
          rw [String.toList_append, List.mem_append]
          exact .inr hc
  · rintro ⟨hheader, hplain⟩
    have hall : ∀ c ∈ ("Bearer " ++ token).toList, PlainChar c := by
      intro c hc
      rw [String.toList_append, List.mem_append] at hc
      rcases hc with hc | hc
      · have hmark : ("Bearer ".toList.all fun c => decide (PlainChar c)) = true := by decide
        exact of_decide_eq_true (List.all_eq_true.mp hmark c hc)
      · exact hplain c hc
    simp only [bearer, hheader, Request.plainText?_encode hall, afterMark?_append]

/-- The request asks who the bearer of a token is. -/
structure Request.Bears (r : Request) (token : String) : Prop where
  route : Route.find r = .ok .whoami
  header : r.header? "authorization" = some (Utf8.encode ("Bearer " ++ token))

theorem bearer_sealed {r : Request} {key : List UInt8} {payload : Json}
    (h : r.Bears (AccessCodec.sealed key payload)) :
    bearer r = .ok (AccessCodec.sealed key payload) :=
  bearer_eq_ok_iff.mpr ⟨h.header, fun _ => AccessCodec.plain_sealed⟩

end Http
end Gatehouse
