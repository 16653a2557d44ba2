import Gatehouse.Secret
import Gatehouse.Proofs.Bytes.Base64

/-!
# Gatehouse.Proofs.Secret

A secret and the bytes that it was drawn from, whatever the source of random bytes. The text keeps
every byte that the source has handed out, those of a last group of one or two included, so two
draws of one length make the same secret only of the same bytes (`every_byte_kept`).
-/

namespace Gatehouse.RefreshSecret

variable {τ : Type} [ByteSource τ]

/-- Two draws make the same secret only of the same bytes. -/
theorem draw_eq_iff {n : Nat} (hn : fewestBytes ≤ n) {e₁ e₁' e₂ e₂' : τ}
    {bytes₁ bytes₂ : List UInt8} (h₁ : ByteSource.draw n e₁ = (some bytes₁, e₁'))
    (h₂ : ByteSource.draw n e₂ = (some bytes₂, e₂')) :
    (draw n e₁).1 = (draw n e₂).1 ↔ bytes₁ = bytes₂ := by
  rw [draw_some hn h₁, draw_some hn h₂]
  constructor
  · intro h
    have htexts := congrArg RefreshSecret.text (Except.ok.inj h)
    exact Base64.encode_injective Base64.lawful_url htexts
  · rintro rfl
    rfl

/-- A draw of fewer than thirty-two bytes fails and leaves the source alone. Any other draw makes a
text of four characters for three bytes, rounded up, all of which may stand in a URL. The bytes are
read back from it, and a second draw of this length makes the same secret only of the same bytes. -/
theorem every_byte_kept (n : Nat) :
    (n < 32 → ∀ e : τ, draw n e = (.error (.tooShort n), e)) ∧
    (32 ≤ n → ∀ (e : τ) bytes e', ByteSource.draw n e = (some bytes, e') →
      ∃ s, draw n e = (.ok s, e') ∧ s.text.length = (4 * n + 2) / 3 ∧
        (∀ c ∈ s.text.toList, Base64.UrlSafe c) ∧ Base64.url.decode? s.text = some bytes ∧
        ∀ (e₂ : τ) bytes₂ e₂', ByteSource.draw n e₂ = (some bytes₂, e₂') →
          ((draw n e₂).1 = .ok s ↔ bytes₂ = bytes)) := by
  refine ⟨fun hn e => draw_short hn, fun hn e bytes e' hdraw => ?_⟩
  have hsecret := draw_some hn hdraw
  refine ⟨_, hsecret, ?_, ?_, ?_, ?_⟩
  · rw [Base64.length_encode, ByteSource.length_of_draw hdraw]
  · intro c hc
    exact Base64.urlSafe_encode hc
  · exact Base64.decode?_encode Base64.lawful_url bytes
  · intro e₂ bytes₂ e₂' hdraw₂
    have hiff := draw_eq_iff hn hdraw₂ hdraw
    rwa [hsecret] at hiff

/-- Sixty-four bytes, the last of which is a group of its own, from a source at two words. -/
theorem every_byte_kept_of_two_words :
    (32 ≤ 64 ∧ ∀ x, ByteSource.draw 64 (Entropy.mk x false) =
      (some (Entropy.bytesAfter 64 x).1, ⟨(Entropy.bytesAfter 64 x).2, false⟩)) ∧
    ∃ s, draw 64 (Entropy.mk 0 false) = (.ok s, ⟨(Entropy.bytesAfter 64 0).2, false⟩) ∧
      s.text.length = 86 ∧ (∀ c ∈ s.text.toList, Base64.UrlSafe c) ∧
      Base64.url.decode? s.text = some (Entropy.bytesAfter 64 0).1 ∧
      (draw 64 (Entropy.mk 1 false)).1 ≠ .ok s := by
  have hlong : 32 ≤ 64 := by decide
  have hdraw (x : UInt64) : ByteSource.draw 64 (Entropy.mk x false) =
      (some (Entropy.bytesAfter 64 x).1, ⟨(Entropy.bytesAfter 64 x).2, false⟩) := rfl
  obtain ⟨s, hs, hlength, hsafe, hread, hother⟩ :=
    (every_byte_kept 64).2 hlong _ _ _ (hdraw 0)
  refine ⟨⟨hlong, hdraw⟩, s, hs, hlength, hsafe, hread, fun hsame => ?_⟩
  have hbytes : (Entropy.bytesAfter 64 1).1 = (Entropy.bytesAfter 64 0).1 :=
    (hother _ _ _ (hdraw 1)).mp hsame
  exact absurd hbytes (by decide +kernel)

end Gatehouse.RefreshSecret
