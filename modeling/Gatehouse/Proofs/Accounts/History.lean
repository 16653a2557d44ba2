import Gatehouse.Proofs.Accounts.Memory
import Gatehouse.Proofs.Run

/-!
# Gatehouse.Proofs.Accounts.History

Whose a username is, told by the history of a run alone. The credentials in memory are those of the
signups that succeeded, and none of them is ever replaced (`Booked`); so each answer follows from
the answers before it (`accounts_exact`). Hashes are plain, and the engine is in health.
-/

namespace Gatehouse

open SteadySource (broken)

variable {τ : Type}

/-- A step of a run: somebody signs up or logs in. Between these calls clocks, the source of random
bytes and the refresh records may become anything. -/
inductive AccountStep (τ : Type) where
  | signup (username password : String)
  | login (username password : String)
  | elsewhere (now : Instant) (e : τ) (store : RefreshBackend)

inductive AccountAnswer where
  | owner (a : Except AuthError OwnerId)
  | tokens (a : Except AuthError IssuedTokens)
  | done

def AccountStep.apply [ByteSource τ] (a : AuthService τ Backends) :
    AccountStep τ → World τ Backends → AccountAnswer × World τ Backends
  | signup username password, w =>
    (.owner (a.signup username password w).1, (a.signup username password w).2)
  | login username password, w =>
    (.tokens (a.login username password w).1, (a.login username password w).2)
  | elsewhere now e store, w => (.done, ⟨now, e, store, w.stores.repo⟩)

/-- Random bytes can be drawn, and the engine issues tokens to every owner who has a name. -/
structure TokenEngine.Healthy [SteadySource τ] (g : TokenEngine τ Backends)
    (w : World τ Backends) : Prop where
  entropy : broken w.entropy = false
  issues : ∀ owner, owner.isEmpty = false →
    ∃ t w', g.issue owner w = (.ok t, w') ∧ t.owner = owner ∧ w'.stores.repo = w.stores.repo

theorem TokenEngine.healthy_of_steady [SteadySource τ] {g : TokenEngine τ Backends}
    {c : TokenConfig} {access : AccessCodec} (hg : g.Made c (.plain access) Backends.refreshStore)
    (hacc : access.ttl = c.access.ttl) {w : World τ Backends} (hq : w.stores.store.Quiet)
    (hs : Steady c w.alone) (hfree : w.stores.store.held (g.nextSecret w).digest = none) :
    g.Healthy w := by
  refine ⟨hs.entropy, fun owner hnamed => ?_⟩
  obtain ⟨t, w', hissue, hpair, -⟩ := issue_spec hg.alone hq hs.able hacc hnamed hfree
  refine ⟨t, ⟨w'.now, w'.entropy, w'.stores, w.stores.repo⟩, ?_, hpair.owner, rfl⟩
  rw [issue_beside hg, hissue]
  rfl

namespace AuthService

open PasswordHasher (plainMark)

abbrev Dealings (τ : Type) := List (Moment (World τ Backends) (AccountStep τ) AccountAnswer)

def dealings [ByteSource τ] (a : AuthService τ Backends) (w : World τ Backends)
    (steps : List (AccountStep τ)) : Dealings τ :=
  Run.moments (AccountStep.apply a) steps w

def afterDealings [ByteSource τ] (a : AuthService τ Backends) (w : World τ Backends)
    (steps : List (AccountStep τ)) (k : Nat) : World τ Backends :=
  Run.after (AccountStep.apply a) steps w k

variable {h : Dealings τ} {m : Moment (World τ Backends) (AccountStep τ) AccountAnswer} {k : Nat}

/-- Before the `k`th step somebody signed up with these texts and became this owner. -/
def SignedUp (h : Dealings τ) (k : Nat) (username password : String) (owner : OwnerId) : Prop :=
  ∃ i m, i < k ∧ h[i]? = some m ∧ m.call = .signup username password ∧
    m.answer = .owner (.ok owner)

def Taken (h : Dealings τ) (k : Nat) (username : String) : Prop :=
  ∃ password owner, SignedUp h k username password owner

theorem signedUp_succ {username password : String} {owner : OwnerId} :
    SignedUp h (k + 1) username password owner ↔ SignedUp h k username password owner ∨
      ∃ m, h[k]? = some m ∧ m.call = .signup username password ∧
        m.answer = .owner (.ok owner) := by
  constructor
  · rintro ⟨i, m, hi, hm⟩
    rcases Nat.lt_succ_iff_lt_or_eq.mp hi with hi | rfl
    · exact .inl ⟨i, m, hi, hm⟩
    · exact .inr ⟨m, hm⟩
  · rintro (⟨i, m, hi, hm⟩ | ⟨m, hm⟩)
    · exact ⟨i, m, Nat.lt_succ_of_lt hi, hm⟩
    · exact ⟨k, m, Nat.lt_succ_self k, hm⟩

/-! ## What is booked -/

/-- The credentials are those of the signups before the `k`th step: each was entered by one, and
each that was entered is there as it was. -/
structure Booked (h : Dealings τ) (k : Nat) (r : MemoryRepo) : Prop where
  entered : ∀ username c, r.byUsername.get? username = some c → c.owner.isEmpty = false ∧
    ∃ password, c.passwordHash = plainMark ++ password ∧ SignedUp h k username password c.owner
  kept : ∀ username password owner, SignedUp h k username password owner →
    ∃ c, r.byUsername.get? username = some c ∧ c.passwordHash = plainMark ++ password ∧
      c.owner = owner

namespace Booked

variable {r : MemoryRepo} {username password : String} {owner : OwnerId}

theorem start (h : Dealings τ) : Booked h 0 default where
  entered _ _ hc := by cases hc
  kept _ _ _ := by
    rintro ⟨i, m, hi, -⟩
    cases hi

theorem taken_iff (hb : Booked h k r) :
    Taken h k username ↔ (r.byUsername.get? username).isSome = true := by
  constructor
  · rintro ⟨password, owner, hup⟩
    obtain ⟨c, hc, -⟩ := hb.kept _ _ _ hup
    rw [hc]
    rfl
  · intro hsome
    obtain ⟨c, hc⟩ := Option.isSome_iff_exists.mp hsome
    obtain ⟨-, password, -, hup⟩ := hb.entered _ _ hc
    exact ⟨password, c.owner, hup⟩

/-- A hash tells the password that it was made of. -/
theorem signedUp_iff (hb : Booked h k r) {c : Credentials}
    (hc : r.byUsername.get? username = some c) :
    SignedUp h k username password owner ↔
      c.passwordHash = plainMark ++ password ∧ c.owner = owner := by
  constructor
  · intro hup
    obtain ⟨c', hc', hup⟩ := hb.kept _ _ _ hup
    cases hc.symm.trans hc'
    exact hup
  · rintro ⟨hhash, rfl⟩
    obtain ⟨-, password', hhash', hup⟩ := hb.entered _ _ hc
    cases String.append_right_inj plainMark |>.mp (hhash.symm.trans hhash')
    exact hup

theorem pass (hb : Booked h k r)
    (hnone : ∀ m, h[k]? = some m → ∀ owner, m.answer ≠ .owner (.ok owner)) :
    Booked h (k + 1) r := by
  have hsame (username password : String) (owner : OwnerId) :
      SignedUp h (k + 1) username password owner ↔ SignedUp h k username password owner := by
    rw [signedUp_succ, or_iff_left]
    rintro ⟨m, hm, -, hanswer⟩
    exact hnone m hm owner hanswer
  constructor
  · simpa only [hsame] using hb.entered
  · simpa only [hsame] using hb.kept

theorem enter (hb : Booked h k r) (hm : h[k]? = some m)
    (hcall : m.call = .signup username password) (hanswer : m.answer = .owner (.ok owner))
    (hnamed : owner.isEmpty = false) (hfree : r.byUsername.get? username = none)
    (createdAt : Instant) :
    Booked h (k + 1) (r.enter ⟨owner, username, plainMark ++ password, createdAt⟩) where
  entered name c hc := by
    simp only [MemoryRepo.enter, Table.get?_insert] at hc
    split at hc
    · rename_i hname
      subst hname
      cases hc
      exact ⟨hnamed, password, rfl, signedUp_succ.mpr (.inr ⟨m, hm, hcall, hanswer⟩)⟩
    · obtain ⟨hnamed, password, hhash, hup⟩ := hb.entered name c hc
      exact ⟨hnamed, password, hhash, signedUp_succ.mpr (.inl hup)⟩
  kept name word o hup := by
    simp only [MemoryRepo.enter, Table.get?_insert]
    rcases signedUp_succ.mp hup with hup | ⟨m', hm', hcall', hanswer'⟩
    · obtain ⟨c, hc, hhash⟩ := hb.kept name word o hup
      have hother : name ≠ username := by
        rintro rfl
        cases hfree.symm.trans hc
      exact ⟨c, (if_neg hother).trans hc, hhash⟩
    · cases hm.symm.trans hm'
      cases hcall.symm.trans hcall'
      cases hanswer.symm.trans hanswer'
      exact ⟨_, if_pos rfl, rfl, rfl⟩

end Booked

/-! ## One step -/

variable [SteadySource τ]

section Step

variable {g : TokenEngine τ Backends} {w : World τ Backends} {r : MemoryRepo}
  {username password : String}

theorem login_signedUp (hb : Booked h k r) (hrepo : w.stores.repo = .memory r)
    (hhealthy : g.Healthy w) {owner : OwnerId} (hup : SignedUp h k username password owner) :
    ∃ t w', login ⟨Backends.credentialRepo, .plain, g⟩ username password w = (.ok t, w') ∧
      t.owner = owner ∧ w'.stores.repo = w.stores.repo := by
  obtain ⟨c, hc, hhash, rfl⟩ := hb.kept _ _ _ hup
  obtain ⟨hnamed, -⟩ := hb.entered _ _ hc
  obtain ⟨t, w', hissue, howner, hleft⟩ := hhealthy.issues c.owner hnamed
  refine ⟨t, w', ?_, howner, hleft⟩
  have hcheck : PasswordHasher.plain.check password c.passwordHash w = (.ok true, w) := by
    simp only [PasswordHasher.plain, hhash, decide_true]
  rw [login_right hrepo hc hcheck, hissue]
  rfl

theorem login_not_signedUp (hb : Booked h k r) (hrepo : w.stores.repo = .memory r)
    (hup : ∀ owner, ¬ SignedUp h k username password owner) :
    login ⟨Backends.credentialRepo, .plain, g⟩ username password w =
      (.error .invalidCredentials, w) := by
  cases hc : r.byUsername.get? username with
  | none => exact login_unknown hrepo hc
  | some c =>
    have hwrong : c.passwordHash ≠ plainMark ++ password := fun hhash =>
      hup c.owner ((hb.signedUp_iff hc).mpr ⟨hhash, rfl⟩)
    exact login_wrong hrepo hc (by simp only [PasswordHasher.plain, decide_eq_false hwrong])

theorem Booked.step (hb : Booked h k r) (hm : h[k]? = some m)
    (hanswer : m.answer = (m.call.apply ⟨Backends.credentialRepo, .plain, g⟩ m.before).1)
    (hrepo : m.before.stores.repo = .memory r) (hhealthy : g.Healthy m.before) :
    ∃ r', (m.call.apply ⟨Backends.credentialRepo, .plain, g⟩ m.before).2.stores.repo =
      .memory r' ∧ Booked h (k + 1) r' := by
  have pass (hnone : ∀ owner, m.answer ≠ .owner (.ok owner)) : Booked h (k + 1) r :=
    hb.pass fun m' hm' => by
      cases hm.symm.trans hm'
      exact hnone
  cases hcall : m.call with
  | signup username password =>
    rw [hcall] at hanswer
    have hends := signup_ends (g := g) PasswordHasher.apart_plain hrepo username password
    simp only [AccountStep.apply] at hanswer ⊢
    generalize signup ⟨Backends.credentialRepo, .plain, g⟩ username password m.before = ended
      at hends hanswer ⊢
    cases hends with
    | refused fault _ => exact ⟨r, hrepo, pass (by simp [hanswer])⟩
    | taken e _ _ => exact ⟨r, hrepo, pass (by simp [hanswer])⟩
    | broken x e _ => exact ⟨r, hrepo, pass (by simp [hanswer])⟩
    | entered owner hash e _ hfree hnamed hhash =>
      cases hhash
      exact ⟨_, rfl, hb.enter hm hcall hanswer hnamed hfree _⟩
  | login username password =>
    rw [hcall] at hanswer
    refine ⟨r, ?_, pass (by simp [hanswer, AccountStep.apply])⟩
    by_cases hup : ∃ owner, SignedUp h k username password owner
    · obtain ⟨owner, hup⟩ := hup
      obtain ⟨t, w', hlogin, -, hleft⟩ := login_signedUp hb hrepo hhealthy hup
      simp only [AccountStep.apply, hlogin, hleft, hrepo]
    · simp only [AccountStep.apply, login_not_signedUp hb hrepo (not_exists.mp hup), hrepo]
  | elsewhere now e store =>
    rw [hcall] at hanswer
    exact ⟨r, hrepo, pass (by simp [hanswer, AccountStep.apply])⟩

end Step

/-! ## Runs -/

section Runs

variable {g : TokenEngine τ Backends} {w : World τ Backends} {steps : List (AccountStep τ)}

/-- The books are kept all along a run that begins without accounts. -/
theorem booked_after (hempty : w.stores.repo = .memory default)
    (hhealthy : ∀ m ∈ dealings ⟨Backends.credentialRepo, .plain, g⟩ w steps,
      g.Healthy m.before) (k : Nat) :
    let a : AuthService τ Backends := ⟨Backends.credentialRepo, .plain, g⟩
    ∃ r, (a.afterDealings w steps k).stores.repo = .memory r ∧
      Booked (a.dealings w steps) k r := by
  intro a
  induction k with
  | zero => exact ⟨default, by simpa [afterDealings] using hempty, .start _⟩
  | succ k ih =>
    obtain ⟨r, hrepo, hb⟩ := ih
    cases hm : (a.dealings w steps)[k]? with
    | none =>
      refine ⟨r, ?_, hb.pass fun m hm' => by simp [hm] at hm'⟩
      rwa [afterDealings, Run.after_succ_of_none hm]
    | some m =>
      obtain ⟨hbefore, -, hanswer, -⟩ := Run.of_getElem? hm
      rw [afterDealings, Run.after_succ hm]
      exact hb.step hm hanswer (hbefore ▸ hrepo) (hhealthy m (List.mem_of_getElem? hm))

theorem booked_before (hempty : w.stores.repo = .memory default)
    (hhealthy : ∀ m ∈ dealings ⟨Backends.credentialRepo, .plain, g⟩ w steps, g.Healthy m.before)
    {m : Moment (World τ Backends) (AccountStep τ) AccountAnswer}
    (hm : (dealings ⟨Backends.credentialRepo, .plain, g⟩ w steps)[k]? = some m) :
    ∃ r, m.before.stores.repo = .memory r ∧
      Booked (dealings ⟨Backends.credentialRepo, .plain, g⟩ w steps) k r := by
  obtain ⟨r, hrepo, hb⟩ := booked_after hempty hhealthy k
  exact ⟨r, (Run.of_getElem? hm).1 ▸ hrepo, hb⟩

/-- A signup, as the history before it tells it: it succeeds if its texts are long enough and nobody
was given the username, and else it leaves the stores as they were. -/
structure SignupExact (h : Dealings τ) (k : Nat) (username password : String)
    (answer : AccountAnswer) (before after : Backends) : Prop where
  succeeds : (∃ owner, answer = .owner (.ok owner)) ↔
    3 ≤ username.length ∧ 8 ≤ password.length ∧ ¬ Taken h k username
  shortUsername : username.length < 3 → answer = .owner (.error (.invalidInput .shortUsername))
  shortPassword : 3 ≤ username.length → password.length < 8 →
    answer = .owner (.error (.invalidInput .shortPassword))
  taken : 3 ≤ username.length → 8 ≤ password.length → Taken h k username →
    answer = .owner (.error .usernameTaken)
  unchanged : (∀ owner, answer ≠ .owner (.ok owner)) → after = before

/-- A login, as the history before it tells it. -/
structure LoginExact (h : Dealings τ) (k : Nat) (username password : String)
    (answer : AccountAnswer) : Prop where
  succeeds : ∀ owner, SignedUp h k username password owner →
    ∃ t, answer = .tokens (.ok t) ∧ t.owner = owner
  refused : (∀ owner, ¬ SignedUp h k username password owner) →
    answer = .tokens (.error .invalidCredentials)

theorem inputFault?_shortUsername {username : String} (password : String)
    (h : username.length < 3) : inputFault? username password = some .shortUsername :=
  if_pos h

theorem inputFault?_shortPassword {username password : String} (h : 3 ≤ username.length)
    (h' : password.length < 8) : inputFault? username password = some .shortPassword :=
  (if_neg (Nat.not_lt.mpr h)).trans (if_pos h')

theorem Booked.signup_exact {r : MemoryRepo} (hb : Booked h k r)
    (hrepo : w.stores.repo = .memory r) (hworks : broken w.entropy = false)
    (username password : String) :
    let a : AuthService τ Backends := ⟨Backends.credentialRepo, .plain, g⟩
    SignupExact h k username password (.owner (a.signup username password w).1) w.stores
      (a.signup username password w).2.stores := by
  intro a
  have hends := signup_ends (g := g) PasswordHasher.apart_plain hrepo username password
  generalize signup ⟨Backends.credentialRepo, .plain, g⟩ username password w = ended at hends ⊢
  cases hends with
  | refused fault hfault =>
    have hshort : ¬ (3 ≤ username.length ∧ 8 ≤ password.length) := by
      rw [← inputFault?_eq_none, hfault]
      simp
    constructor
    · simp only [AccountAnswer.owner.injEq, reduceCtorEq, exists_false, false_iff]
      exact fun ⟨hu, hp, _⟩ => hshort ⟨hu, hp⟩
    · intro hu
      cases hfault.symm.trans (inputFault?_shortUsername password hu)
      rfl
    · intro hu hp
      cases hfault.symm.trans (inputFault?_shortPassword hu hp)
      rfl
    · exact fun hu hp _ => absurd ⟨hu, hp⟩ hshort
    · exact fun _ => rfl
  | taken e hfault htaken =>
    obtain ⟨hu, hp⟩ := inputFault?_eq_none.mp hfault
    have htaken := hb.taken_iff.mpr htaken
    constructor
    · simp only [AccountAnswer.owner.injEq, reduceCtorEq, exists_false, false_iff]
      exact fun ⟨_, _, hfree⟩ => hfree htaken
    · exact fun hu' => absurd hu (Nat.not_le.mpr hu')
    · exact fun _ hp' => absurd hp (Nat.not_le.mpr hp')
    · exact fun _ _ _ => rfl
    · exact fun _ => rfl
  | broken x e hbroken =>
    -- a plain hash needs no random bytes, and the owner can be drawn
    cases hworks.symm.trans (hbroken (plainMark ++ password) rfl)
  | entered owner hash e hfault hfree _ _ =>
    obtain ⟨hu, hp⟩ := inputFault?_eq_none.mp hfault
    have hfree : ¬ Taken h k username := by simp [hb.taken_iff, hfree]
    constructor
    · exact ⟨fun _ => ⟨hu, hp, hfree⟩, fun _ => ⟨owner, rfl⟩⟩
    · exact fun hu' => absurd hu (Nat.not_le.mpr hu')
    · exact fun _ hp' => absurd hp (Nat.not_le.mpr hp')
    · exact fun _ _ htaken => absurd htaken hfree
    · exact fun hnone => absurd rfl (hnone owner)

theorem Booked.login_exact {r : MemoryRepo} (hb : Booked h k r)
    (hrepo : w.stores.repo = .memory r) (hhealthy : g.Healthy w) (username password : String) :
    LoginExact h k username password
      (.tokens (login ⟨Backends.credentialRepo, .plain, g⟩ username password w).1) where
  succeeds owner hup := by
    obtain ⟨t, w', hlogin, howner, -⟩ := login_signedUp hb hrepo hhealthy hup
    exact ⟨t, by rw [hlogin], howner⟩
  refused hup := by rw [login_not_signedUp hb hrepo hup]

/-- A run of signups and logins from a repository in memory that is empty: every answer follows from
the history before it, and no username is given twice. -/
theorem accounts_exact (hempty : w.stores.repo = .memory default)
    (hhealthy : ∀ m ∈ dealings ⟨Backends.credentialRepo, .plain, g⟩ w steps,
      g.Healthy m.before) :
    let a : AuthService τ Backends := ⟨Backends.credentialRepo, .plain, g⟩
    let h := a.dealings w steps
    (∀ (k : Nat) m username password, h[k]? = some m → m.call = .signup username password →
      SignupExact h k username password m.answer m.before.stores
        (a.afterDealings w steps (k + 1)).stores) ∧
    (∀ (k : Nat) m username password, h[k]? = some m → m.call = .login username password →
      LoginExact h k username password m.answer) ∧
    (∀ (i j : Nat) m m' username password password' owner owner',
      h[i]? = some m → m.call = .signup username password → m.answer = .owner (.ok owner) →
      h[j]? = some m' → m'.call = .signup username password' → m'.answer = .owner (.ok owner') →
      i = j) := by
  intro a h
  have hsignup (k : Nat) (m) (username password : String) (hm : h[k]? = some m)
      (hcall : m.call = .signup username password) :
      SignupExact h k username password m.answer m.before.stores
        (a.afterDealings w steps (k + 1)).stores := by
    obtain ⟨r, hrepo, hb⟩ := booked_before hempty hhealthy hm
    have hworks := (hhealthy m (List.mem_of_getElem? hm)).entropy
    rw [(Run.of_getElem? hm).2.2.1, afterDealings, Run.after_succ hm, hcall]
    exact hb.signup_exact hrepo hworks username password
  -- a second signup would have found the username taken
  have hone (i j : Nat) (m m') (username password password' : String) (owner owner' : OwnerId)
      (hm : h[i]? = some m) (hcall : m.call = .signup username password)
      (hanswer : m.answer = .owner (.ok owner)) (hm' : h[j]? = some m')
      (hcall' : m'.call = .signup username password')
      (hanswer' : m'.answer = .owner (.ok owner')) : ¬ i < j := fun hij =>
    ((hsignup j m' username password' hm' hcall').succeeds.mp ⟨owner', hanswer'⟩).2.2
      ⟨password, owner, i, m, hij, hm, hcall, hanswer⟩
  refine ⟨hsignup, fun k m username password hm hcall => ?_, ?_⟩
  · obtain ⟨r, hrepo, hb⟩ := booked_before hempty hhealthy hm
    rw [(Run.of_getElem? hm).2.2.1, hcall]
    exact hb.login_exact hrepo (hhealthy m (List.mem_of_getElem? hm)) username password
  · intro i j m m' username password password' owner owner' hm hcall hanswer hm' hcall' hanswer'
    have hij := hone i j _ _ _ _ _ _ _ hm hcall hanswer hm' hcall' hanswer'
    have hji := hone j i _ _ _ _ _ _ _ hm' hcall' hanswer' hm hcall hanswer
    omega

/-- A username is asked for twice. The second password never opens it, the first one still does a
day later. -/
theorem accounts_exact_twice :
    let c : TokenConfig :=
      ⟨⟨"gatehouse", "api", .ofSecs 300, List.replicate 32 7⟩, .ofSecs 3600, 32⟩
    let g : TokenEngine Entropy Backends :=
      ⟨.plain ⟨"gatehouse", "api", .ofSecs 300, List.replicate 32 7⟩, Backends.refreshStore,
        c.refreshTtl, 32⟩
    let a : AuthService Entropy Backends := ⟨Backends.credentialRepo, .plain, g⟩
    let w : World Entropy Backends :=
      ⟨⟨0⟩, { word := 1 }, .memory (.startingAt 5), .memory default⟩
    let steps : List (AccountStep Entropy) := [.signup "ada" "open sesame",
      .signup "ada" "let me in", .login "ada" "let me in",
      .elsewhere ⟨86400000000000⟩ { word := 2 } (.memory (.startingAt 86400000000005)),
      .login "ada" "open sesame"]
    ∃ owner t, (a.dealings w steps).map Moment.answer =
        [.owner (.ok owner), .owner (.error .usernameTaken), .tokens (.error .invalidCredentials),
          .done, .tokens (.ok t)] ∧
      t.owner = owner := by
  intro c g a w steps
  have hg : g.Made c (.plain ⟨"gatehouse", "api", .ofSecs 300, List.replicate 32 7⟩)
      Backends.refreshStore :=
    ⟨rfl, rfl, rfl, by decide, by decide, ⟨0⟩, by decide, by decide⟩
  have hsteady : ∀ m ∈ a.dealings w steps, m.before.stores.store.place = none ∧
      TokenEngine.Steady c m.before.alone ∧
      m.before.stores.store.held (g.nextSecret m.before).digest = none := by decide +kernel
  have hhealthy : ∀ m ∈ a.dealings w steps, g.Healthy m.before := fun m hm => by
    obtain ⟨hplace, hs, hfree⟩ := hsteady m hm
    exact TokenEngine.healthy_of_steady hg rfl (RefreshBackend.quiet_of_place hplace) hs hfree
  obtain ⟨hsignup, hlogin, -⟩ := accounts_exact rfl hhealthy
  obtain ⟨owner, hfirst⟩ := (hsignup 0 _ "ada" "open sesame" rfl rfl).succeeds.mpr
    ⟨by decide, by decide, fun ⟨_, _, _, _, hi, _⟩ => Nat.not_lt_zero _ hi⟩
  have hup (k : Nat) : SignedUp (a.dealings w steps) (k + 1) "ada" "open sesame" owner :=
    ⟨0, _, Nat.succ_pos k, rfl, rfl, hfirst⟩
  have hsecond := (hsignup 1 _ "ada" "let me in" rfl rfl).taken (by decide) (by decide)
    ⟨_, owner, hup 0⟩
  have hother (owner' : OwnerId) :
      ¬ SignedUp (a.dealings w steps) 2 "ada" "let me in" owner' := by
    rintro ⟨i, m, hi, hm, hcall, hanswer⟩
    obtain rfl | rfl : i = 0 ∨ i = 1 := by omega
    · cases hm
      exact absurd (AccountStep.signup.inj hcall).2 (by decide)
    · cases hm
      cases hsecond.symm.trans hanswer
  have hthird := (hlogin 2 _ "ada" "let me in" rfl rfl).refused hother
  obtain ⟨t, hlast, howner⟩ := (hlogin 4 _ "ada" "open sesame" rfl rfl).succeeds owner (hup 3)
  refine ⟨owner, t, ?_, howner⟩
  rw [← hfirst, ← hsecond, ← hthird, ← hlast]
  rfl

end Runs

end AuthService
end Gatehouse
