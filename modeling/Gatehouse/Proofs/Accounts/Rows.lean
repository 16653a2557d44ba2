import Gatehouse.Accounts.Remote
import Gatehouse.Proofs.Time.Calendar

/-!
# Gatehouse.Proofs.Accounts.Rows

Credentials as rows of a table server. A time of creation goes through a time stamp, which keeps
whole microseconds (`Instant.inMicros`); everything else of a row is read as it was written.

* `instant?_ofInstant?`: the time that a time stamp is read as.
* `credentials?_row`: the credentials that a row is read as.
-/

namespace Gatehouse

namespace Instant

def year (t : Instant) : Int := (Date.ofDayNumber (t.secs / 86400)).year

/-- The instant without what is below a microsecond. -/
def inMicros (t : Instant) : Instant := ⟨t.nanos - t.nanos % 1000⟩

end Instant

def Credentials.inMicros (c : Credentials) : Credentials :=
  { c with createdAt := c.createdAt.inMicros }

namespace RowServer

namespace Timestamp

theorem instant?_ofInstant? {t : Instant} {ts : Timestamp} (h : ofInstant? t = some ts) :
    ts.instant? = some t.inMicros := by
  simp only [ofInstant?] at h
  split at h
  · have hts := (Option.some.inj h).symm
    obtain ⟨clock, hclock⟩ : ∃ clock, clock = (t.secs % 86400).toNat := ⟨_, rfl⟩
    rw [← hclock] at hts
    have hday : clock < 86400 := by omega
    have hsecs : t.secs = t.secs / 86400 * 86400 + clock := by omega
    have hsub : t.subsec < 1000000000 := by
      simp only [Instant.subsec, Span.second]
      omega
    have hvalid := Date.valid_ofDayNumber (t.secs / 86400)
    have hnumber := Date.dayNumber_ofDayNumber (t.secs / 86400)
    have hbounds : clock / 3600 < 24 ∧ clock / 60 % 60 < 60 ∧ clock % 60 < 60 ∧
        t.subsec / 1000 < 1000000 := by omega
    have hparts : clock / 3600 * 3600 + clock / 60 % 60 * 60 + clock % 60 = clock := by omega
    subst hts
    simp only [instant?]
    rw [if_pos ⟨hvalid, hbounds⟩, hparts, hnumber, ← hsecs]
    simp only [Instant.ofParts, Instant.inMicros, Instant.secs, Instant.subsec, Span.second,
      Option.some.injEq, Instant.mk.injEq]
    omega
  · cases h

theorem ofInstant?_isSome {t : Instant} (h0 : 0 ≤ t.year) (h1 : t.year < 65536) :
    (ofInstant? t).isSome = true := by
  simp only [ofInstant?]
  rw [if_pos ⟨h0, h1⟩]
  rfl

end Timestamp

def row (c : Credentials) (createdAt : Timestamp) : List Cell :=
  [.text c.owner.text, .text c.username, .text c.passwordHash, .time createdAt]

theorem credentials?_row {c : Credentials} {ts : Timestamp}
    (h : Timestamp.ofInstant? c.createdAt = some ts) :
    RemoteRepo.credentials? credentialColumns (row c ts) = some c.inMicros := by
  have howner : cell? credentialColumns (row c ts) "owner_id" =
      some (.varchar, .text c.owner.text) := by
    simp [cell?, credentialColumns, row]
  have husername : cell? credentialColumns (row c ts) "username" =
      some (.varchar, .text c.username) := by
    simp [cell?, credentialColumns, row]
  have hhash : cell? credentialColumns (row c ts) "password_hash" =
      some (.varchar, .text c.passwordHash) := by
    simp [cell?, credentialColumns, row]
  have htime : cell? credentialColumns (row c ts) "created_at" = some (.timestamp, .time ts) := by
    simp [cell?, credentialColumns, row]
  simp [RemoteRepo.credentials?, howner, husername, hhash, htime, readText?, readTime?,
    Timestamp.instant?_ofInstant? h, Credentials.inMicros]

end RowServer
end Gatehouse
