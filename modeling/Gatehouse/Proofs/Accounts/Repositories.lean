import Mathlib.Logic.Function.Basic
import Gatehouse.Proofs.Accounts.Rows
import Gatehouse.Proofs.Run

/-!
# Gatehouse.Proofs.Accounts.Repositories

A repository of credentials, in memory or on a table server, in terms of what it finds under each
username. `CredentialRepo.Keeps` says what each call answers and what is found after it; both
repositories keep to it (`MemoryRepo.keeps`, `RemoteRepo.keeps`), and they differ in what they make
of the credentials that they take.

* `CredentialRepo.Keeps.after`: after any calls, what is found under a username is what was created
  first under it.
* `repositories_interchangeable`: so both answer every run of calls alike, but for times of
  creation, which a table server keeps in microseconds.
-/

namespace Gatehouse

abbrev Accounts := String → Option Credentials

namespace CredentialRepo

variable {σ : Type}

/-- A repository whose state shows accounts. It takes some credentials, as `keep` makes them, under
usernames that are free. -/
structure Keeps (R : CredentialRepo σ) (Takes : Credentials → Prop)
    (keep : Credentials → Credentials) (Shows : σ → Accounts → Prop) : Prop where
  find {s : σ} {accounts : Accounts} (h : Shows s accounts) (username : String) :
    (R.find username s).1 = .ok (accounts username) ∧ Shows (R.find username s).2 accounts
  taken {s : σ} {accounts : Accounts} {c : Credentials} (h : Shows s accounts) (ht : Takes c)
    (hc : (accounts c.username).isSome = true) :
    (R.create c s).1 = .error .usernameTaken ∧ Shows (R.create c s).2 accounts
  free {s : σ} {accounts : Accounts} {c : Credentials} (h : Shows s accounts) (ht : Takes c)
    (hc : accounts c.username = none) :
    (R.create c s).1 = .ok () ∧
      Shows (R.create c s).2 (Function.update accounts c.username (some (keep c)))

end CredentialRepo

/-! ## In memory -/

namespace MemoryRepo

variable {r : MemoryRepo} {c : Credentials}

theorem create_taken (h : (r.byUsername.get? c.username).isSome = true) :
    create c r = (.error .usernameTaken, r) := by
  simp [create, Table.contains, h]

theorem create_free (h : r.byUsername.get? c.username = none) :
    create c r = (.ok (), ⟨r.byUsername.insert c.username c⟩) := by
  simp [create, Table.contains, h]

theorem keeps :
    CredentialRepo.memory.Keeps (fun _ => True) id fun r accounts =>
      r.byUsername.get? = accounts where
  find {r accounts} h username := by
    subst h
    exact ⟨rfl, rfl⟩
  taken {r accounts c} h _ hc := by
    subst h
    change (create c r).1 = _ ∧ (create c r).2.byUsername.get? = _
    rw [create_taken hc]
    exact ⟨rfl, rfl⟩
  free {r accounts c} h _ hc := by
    subst h
    change (create c r).1 = _ ∧ (create c r).2.byUsername.get? = _
    rw [create_free hc]
    refine ⟨rfl, ?_⟩
    funext username
    simp [Function.update_apply]

end MemoryRepo

/-! ## On a table server -/

namespace RowServer.Link

/-- A server that is left alone, each of whose rows is read as the credentials of its username. -/
structure Shows (l : Link) (accounts : Accounts) : Prop where
  pending : l.pending = []
  columns : l.columns = credentialColumns
  rows : ∀ username, (l.rows.get? username).map (RemoteRepo.credentials? credentialColumns) =
    (accounts username).map some

theorem shows_empty : Shows {} fun _ => none := ⟨rfl, rfl, fun _ => rfl⟩

variable {l : Link} {accounts : Accounts}

theorem send_quiet (h : l.pending = []) (s : Statement) :
    l.send s = Link.run { l with sent := l.sent ++ [s] } s := by
  simp only [send, h]

theorem Shows.find (h : l.Shows accounts) (username : String) :
    RemoteRepo.find username l =
      (.ok (accounts username), { l with sent := l.sent ++ [.select username] }) := by
  have hrow := h.rows username
  simp only [RemoteRepo.find, send_quiet h.pending, run]
  cases hget : l.rows.get? username with
  | none =>
    have hnone : accounts username = none := by simpa [hget] using hrow.symm
    rw [hnone]
    rfl
  | some cells =>
    cases haccount : accounts username with
    | none => simp [hget, haccount] at hrow
    | some c =>
      have hread : RemoteRepo.credentials? credentialColumns cells = some c := by
        simpa [hget, haccount] using hrow
      simp only [Option.toList_some, h.columns, hread]

theorem Shows.isSome_row (h : l.Shows accounts) (username : String) :
    (l.rows.get? username).isSome = (accounts username).isSome := by
  have hrow := congrArg Option.isSome (h.rows username)
  simpa using hrow

section Create

variable {c : Credentials} {createdAt : Timestamp}
  (ht : Timestamp.ofInstant? c.createdAt = some createdAt)
include ht

theorem Shows.create_taken (h : l.Shows accounts) (hc : (accounts c.username).isSome = true) :
    RemoteRepo.create c l = (.error .usernameTaken, { l with
      sent := l.sent ++ [.insert c.owner.text c.username c.passwordHash createdAt] }) := by
  have hrow : l.rows.contains c.username = true := by
    rw [Table.contains, h.isSome_row, hc]
  unfold RemoteRepo.create
  simp only [ht, send_quiet h.pending, run, hrow, if_true]

theorem Shows.create_free (h : l.Shows accounts) (hc : accounts c.username = none) :
    RemoteRepo.create c l = (.ok (), { l with
      rows := l.rows.insert c.username (row c createdAt)
      sent := l.sent ++ [.insert c.owner.text c.username c.passwordHash createdAt] }) := by
  have hrow : l.rows.contains c.username = false := by
    rw [Table.contains, h.isSome_row, hc]
    rfl
  unfold RemoteRepo.create
  simp only [ht, send_quiet h.pending, run, hrow, Bool.false_eq_true, if_false]
  rfl

theorem Shows.insert (h : l.Shows accounts) (sent : List Statement) :
    Shows { l with rows := l.rows.insert c.username (row c createdAt), sent }
      (Function.update accounts c.username (some c.inMicros)) := by
  refine ⟨h.pending, h.columns, fun username => ?_⟩
  by_cases hu : username = c.username
  · simp [hu, credentials?_row ht]
  · simpa [hu] using h.rows username

end Create

theorem Shows.sent (h : l.Shows accounts) (sent : List Statement) :
    Shows { l with sent } accounts := ⟨h.pending, h.columns, h.rows⟩

end RowServer.Link

theorem RemoteRepo.keeps :
    CredentialRepo.remote.Keeps
      (fun c => (RowServer.Timestamp.ofInstant? c.createdAt).isSome = true) Credentials.inMicros
      RowServer.Link.Shows where
  find {l accounts} h username := by
    change (RemoteRepo.find username l).1 = _ ∧ (RemoteRepo.find username l).2.Shows accounts
    rw [h.find]
    exact ⟨rfl, h.sent _⟩
  taken {l accounts c} h ht hc := by
    obtain ⟨createdAt, ht⟩ := Option.isSome_iff_exists.mp ht
    change (RemoteRepo.create c l).1 = _ ∧ (RemoteRepo.create c l).2.Shows accounts
    rw [h.create_taken ht hc]
    exact ⟨rfl, h.sent _⟩
  free {l accounts c} h ht hc := by
    obtain ⟨createdAt, ht⟩ := Option.isSome_iff_exists.mp ht
    change (RemoteRepo.create c l).1 = _ ∧ (RemoteRepo.create c l).2.Shows _
    rw [h.create_free ht hc]
    exact ⟨rfl, h.insert ht _⟩

/-! ## On either backend -/

namespace RepoBackend

/-- What is found under each username, on a server that is left alone. -/
def Shows : RepoBackend → Accounts → Prop
  | memory r, accounts => r.byUsername.get? = accounts
  | remote l, accounts => l.Shows accounts

def isMemory : RepoBackend → Bool
  | memory _ => true
  | remote _ => false

@[simp] theorem isMemory_find (username : String) (repo : RepoBackend) :
    (CredentialRepo.backend.find username repo).2.isMemory = repo.isMemory := by
  cases repo <;> rfl

@[simp] theorem isMemory_create (c : Credentials) (repo : RepoBackend) :
    (CredentialRepo.backend.create c repo).2.isMemory = repo.isMemory := by
  cases repo <;> rfl

variable {repo : RepoBackend} {accounts : Accounts}

theorem find_spec (h : repo.Shows accounts) (username : String) :
    ∃ repo', CredentialRepo.backend.find username repo = (.ok (accounts username), repo') ∧
      repo'.Shows accounts := by
  cases repo with
  | memory r =>
    obtain ⟨hanswer, hshows⟩ := MemoryRepo.keeps.find h username
    exact ⟨_, Prod.ext hanswer rfl, hshows⟩
  | remote l =>
    obtain ⟨hanswer, hshows⟩ := RemoteRepo.keeps.find h username
    exact ⟨_, Prod.ext hanswer rfl, hshows⟩

theorem create_spec (h : repo.Shows accounts) (c : Credentials) :
    ∃ accounts', (CredentialRepo.backend.create c repo).2.Shows accounts' ∧
      ∀ username found, accounts' username = some found → accounts username = some found ∨
        found.owner = c.owner ∧ found.passwordHash = c.passwordHash := by
  have hentered : ∀ {c' : Credentials}, c'.owner = c.owner → c'.passwordHash = c.passwordHash →
      ∀ username found, Function.update accounts c.username (some c') username = some found →
        accounts username = some found ∨
          found.owner = c.owner ∧ found.passwordHash = c.passwordHash := by
    intro c' howner hhash username found hfound
    by_cases hu : username = c.username
    · subst hu
      rw [Function.update_self] at hfound
      cases hfound
      exact .inr ⟨howner, hhash⟩
    · rw [Function.update_of_ne hu] at hfound
      exact .inl hfound
  cases repo with
  | memory r =>
    cases hc : accounts c.username with
    | some _ =>
      have htaken := (MemoryRepo.keeps.taken (c := c) h trivial (by simp [hc])).2
      exact ⟨accounts, htaken, fun _ _ => .inl⟩
    | none => exact ⟨_, (MemoryRepo.keeps.free h trivial hc).2, hentered rfl rfl⟩
  | remote l =>
    cases ht : RowServer.Timestamp.ofInstant? c.createdAt with
    | none =>
      have hcreate : RemoteRepo.create c l = (.error RemoteRepo.refused, l) := by
        unfold RemoteRepo.create
        simp only [ht]
      refine ⟨accounts, ?_, fun _ _ => .inl⟩
      simp only [CredentialRepo.backend, hcreate]
      exact h
    | some createdAt =>
      have ht' : (RowServer.Timestamp.ofInstant? c.createdAt).isSome = true := by rw [ht]; rfl
      cases hc : accounts c.username with
      | some _ =>
        have htaken := (RemoteRepo.keeps.taken h ht' (by simp [hc])).2
        exact ⟨accounts, htaken, fun _ _ => .inl⟩
      | none => exact ⟨_, (RemoteRepo.keeps.free h ht' hc).2, hentered rfl rfl⟩

end RepoBackend

/-! ## Runs -/

/-- A call of a repository. -/
inductive RepoCall where
  | find (username : String)
  | create (c : Credentials)

inductive RepoAnswer where
  | found (a : Except RepoError (Option Credentials))
  | created (a : Except RepoError Unit)

namespace RepoCall

variable {σ : Type}

def apply (R : CredentialRepo σ) : RepoCall → σ → RepoAnswer × σ
  | find username, s => (.found (R.find username s).1, (R.find username s).2)
  | create c, s => (.created (R.create c s).1, (R.create c s).2)

def created? (username : String) : RepoCall → Option Credentials
  | find _ => none
  | create c => if c.username = username then some c else none

end RepoCall

/-- What was created first under each username. -/
def firstCreated (calls : List RepoCall) : Accounts := fun username =>
  calls.findSome? (RepoCall.created? username)

theorem firstCreated_find (calls : List RepoCall) (username : String) :
    firstCreated (calls ++ [.find username]) = firstCreated calls := by
  funext u
  simp [firstCreated, List.findSome?_append, RepoCall.created?]

theorem firstCreated_taken {calls : List RepoCall} {c : Credentials}
    (h : (firstCreated calls c.username).isSome = true) :
    firstCreated (calls ++ [.create c]) = firstCreated calls := by
  funext u
  by_cases hu : c.username = u
  · subst hu
    obtain ⟨c', hc'⟩ := Option.isSome_iff_exists.mp h
    simp only [firstCreated] at hc' ⊢
    simp [List.findSome?_append, hc']
  · simp [firstCreated, List.findSome?_append, RepoCall.created?, hu]

theorem firstCreated_free {calls : List RepoCall} {c : Credentials}
    (h : firstCreated calls c.username = none) :
    firstCreated (calls ++ [.create c]) =
      Function.update (firstCreated calls) c.username (some c) := by
  funext u
  by_cases hu : u = c.username
  · subst hu
    simp only [firstCreated] at h
    simp [firstCreated, List.findSome?_append, RepoCall.created?, h]
  · simp [firstCreated, List.findSome?_append, RepoCall.created?, Ne.symm hu, hu]

namespace CredentialRepo.Keeps

variable {σ : Type} {R : CredentialRepo σ} {Takes : Credentials → Prop}
  {keep : Credentials → Credentials} {Shows : σ → Accounts → Prop}

/-- A repository that shows the first credentials of some calls shows them after one more call. -/
theorem step (hR : R.Keeps Takes keep Shows) {s : σ} {past : List RepoCall}
    (h : Shows s fun u => (firstCreated past u).map keep) {call : RepoCall}
    (ht : ∀ c, call = .create c → Takes c) :
    Shows (call.apply R s).2 fun u => (firstCreated (past ++ [call]) u).map keep := by
  cases call with
  | find username =>
    rw [firstCreated_find]
    exact (hR.find h username).2
  | create c =>
    cases hc : firstCreated past c.username with
    | some c' =>
      rw [firstCreated_taken (by rw [hc]; rfl)]
      exact (hR.taken h (ht c rfl) (by simp [hc])).2
    | none =>
      rw [firstCreated_free hc]
      have hfree := (hR.free h (ht c rfl) (by simp [hc])).2
      have hupdate :
          (fun u => (Function.update (firstCreated past) c.username (some c) u).map keep) =
          Function.update (fun u => (firstCreated past u).map keep) c.username (some (keep c)) := by
        funext u
        by_cases hu : u = c.username <;> simp [hu]
      rw [hupdate]
      exact hfree

theorem after (hR : R.Keeps Takes keep Shows) {s : σ} (hs : Shows s fun _ => none)
    {calls : List RepoCall} (hcalls : ∀ c, .create c ∈ calls → Takes c) (k : Nat) :
    Shows (Run.after (RepoCall.apply R) calls s k)
      fun u => (firstCreated (calls.take k) u).map keep := by
  induction k with
  | zero => simpa [firstCreated] using hs
  | succ k ih =>
    cases hk : calls[k]? with
    | none =>
      have hmoment : (Run.moments (RepoCall.apply R) calls s)[k]? = none := by
        rw [Run.getElem?_moments, hk]
        rfl
      rw [Run.after_succ_of_none hmoment, List.take_add_one, hk]
      simpa using ih
    | some call =>
      have hmoment : (Run.moments (RepoCall.apply R) calls s)[k]? = _ :=
        Run.getElem?_moments calls s k
      rw [hk] at hmoment
      rw [Run.after_succ hmoment, List.take_add_one, hk]
      exact hR.step ih fun c hc => hcalls c (hc ▸ List.mem_of_getElem? hk)

end CredentialRepo.Keeps

/-- The calls of a run on a repository in memory and on one on a table server, both empty at first.
A username is taken if it was created before, and what is found under it is what was created first.
-/
theorem repositories_interchangeable {calls : List RepoCall}
    (hcalls : ∀ c, .create c ∈ calls → 1 ≤ c.createdAt.year ∧ c.createdAt.year ≤ 9999) (k : Nat) :
    let inMemory := Run.after (RepoCall.apply .memory) calls default k
    let onServer := Run.after (RepoCall.apply .remote) calls {} k
    let first := firstCreated (calls.take k)
    (∀ c, calls[k]? = some (.create c) →
      (MemoryRepo.create c inMemory).1 =
        (if (first c.username).isSome then .error .usernameTaken else .ok ()) ∧
      (RemoteRepo.create c onServer).1 = (MemoryRepo.create c inMemory).1) ∧
    ∀ username, calls[k]? = some (.find username) →
      (MemoryRepo.find username inMemory).1 = .ok (first username) ∧
      (RemoteRepo.find username onServer).1 = .ok ((first username).map Credentials.inMicros) := by
  intro inMemory onServer first
  have htakes : ∀ c, .create c ∈ calls →
      (RowServer.Timestamp.ofInstant? c.createdAt).isSome = true := by
    intro c hc
    obtain ⟨h0, h1⟩ := hcalls c hc
    exact RowServer.Timestamp.ofInstant?_isSome (by omega) (by omega)
  have hmemory : inMemory.byUsername.get? = fun u => (first u).map id :=
    MemoryRepo.keeps.after rfl (fun _ _ => trivial) k
  have hserver : onServer.Shows fun u => (first u).map Credentials.inMicros :=
    RemoteRepo.keeps.after RowServer.Link.shows_empty htakes k
  refine ⟨fun c hc => ?_, fun username _ => ⟨?_, (RemoteRepo.keeps.find hserver username).1⟩⟩
  · have ht := htakes c (List.mem_of_getElem? hc)
    cases hfirst : first c.username with
    | some c' =>
      have h := (MemoryRepo.keeps.taken (c := c) hmemory trivial (by simp [hfirst])).1
      have h' := (RemoteRepo.keeps.taken hserver ht (by simp [hfirst])).1
      exact ⟨h, h'.trans h.symm⟩
    | none =>
      have h := (MemoryRepo.keeps.free (c := c) hmemory trivial (by simp [hfirst])).1
      have h' := (RemoteRepo.keeps.free hserver ht (by simp [hfirst])).1
      exact ⟨h, h'.trans h.symm⟩
  · have h := (MemoryRepo.keeps.find hmemory username).1
    rwa [Option.map_id, id] at h

/-- A username is created twice and then found: the first credentials are kept, without the last
three digits of their nanoseconds on a server. -/
theorem repositories_interchangeable_twice :
    let first : Credentials := ⟨⟨"1"⟩, "ada", "hash", ⟨1700000000123456789⟩⟩
    let second : Credentials := ⟨⟨"2"⟩, "ada", "other", ⟨1700000001000000000⟩⟩
    let calls : List RepoCall := [.create first, .create second, .find "ada"]
    (RemoteRepo.create second (Run.after (RepoCall.apply .remote) calls {} 1)).1 =
        (MemoryRepo.create second (Run.after (RepoCall.apply .memory) calls default 1)).1 ∧
      (RemoteRepo.find "ada" (Run.after (RepoCall.apply .remote) calls {} 2)).1 =
        .ok (some { first with createdAt := ⟨1700000000123456000⟩ }) := by
  intro first second calls
  have hcalls : ∀ c, .create c ∈ calls → 1 ≤ c.createdAt.year ∧ c.createdAt.year ≤ 9999 := by
    intro c hc
    rcases List.mem_cons.mp hc with hc | hc
    · cases hc
      decide
    · rcases List.mem_cons.mp hc with hc | hc
      · cases hc
        decide
      · simp at hc
  exact ⟨((repositories_interchangeable hcalls 1).1 second rfl).2,
    ((repositories_interchangeable hcalls 2).2 "ada" rfl).2⟩

end Gatehouse
