import Gatehouse.Accounts.Repo
import Gatehouse.Password.Hasher
import Gatehouse.Token.Engine

/-!
# Gatehouse.Accounts.Service

What clients can do: sign up, log in, refresh their tokens, end them, and show who they are.
-/

namespace Gatehouse

structure AuthService (τ σ : Type) where
  repo : CredentialRepo σ
  hasher : PasswordHasher τ σ
  engine : TokenEngine τ σ

namespace AuthService

variable {τ σ : Type} [ByteSource τ]

def shortestUsername : Nat := 3

def shortestPassword : Nat := 8

/-- What is wrong with a username and a password that somebody signs up with. -/
def inputFault? (username password : String) : Option InputFault :=
  if username.length < shortestUsername then some .shortUsername
  else if password.length < shortestPassword then some .shortPassword
  else none

/-- Makes a new owner with these credentials. The password is hashed before the owner is drawn. -/
def signup (a : AuthService τ σ) (username password : String) (w : World τ σ) :
    Except AuthError OwnerId × World τ σ :=
  match inputFault? username password with
  | some fault => (.error (.invalidInput fault), w)
  | none =>
    match a.hasher.hash password w with
    | (.error e, w) => (.error e, w)
    | (.ok passwordHash, w) =>
      match w.onEntropy OwnerId.draw with
      | (none, w) => (.error .aborted, w)
      | (some owner, w) =>
        match w.onStores (a.repo.create ⟨owner, username, passwordHash, w.now⟩) with
        | (.error e, w) => (.error (.ofRepo e), w)
        | (.ok (), w) => (.ok owner, w)

/-- Issues tokens to the owner of a username, if the password is right. That nobody has the username
and that the password is wrong look the same. -/
def login (a : AuthService τ σ) (username password : String) (w : World τ σ) :
    Except AuthError IssuedTokens × World τ σ :=
  match w.onStores (a.repo.find username) with
  | (.error e, w) => (.error (.ofRepo e), w)
  | (.ok none, w) => (.error .invalidCredentials, w)
  | (.ok (some found), w) =>
    match a.hasher.check password found.passwordHash w with
    | (.error e, w) => (.error e, w)
    | (.ok false, w) => (.error .invalidCredentials, w)
    | (.ok true, w) =>
      match a.engine.issue found.owner w with
      | (.error e, w) => (.error (.token e), w)
      | (.ok tokens, w) => (.ok tokens, w)

def refresh (a : AuthService τ σ) (secret : RefreshSecret) (expected : Option OwnerId)
    (w : World τ σ) : Except AuthError IssuedTokens × World τ σ :=
  match a.engine.rotate secret expected w with
  | (.error e, w) => (.error (.token e), w)
  | (.ok tokens, w) => (.ok tokens, w)

def revoke (a : AuthService τ σ) (secret : RefreshSecret) (w : World τ σ) :
    Except AuthError Unit × World τ σ :=
  match a.engine.revoke secret w with
  | (.error e, w) => (.error (.token e), w)
  | (.ok (), w) => (.ok (), w)

def verifyAccess (a : AuthService τ σ) (token : String) (w : World τ σ) :
    Except AuthError OwnerId × World τ σ :=
  match a.engine.validateAccess token w with
  | (.error e, w) => (.error (.token e), w)
  | (.ok owner, w) => (.ok owner, w)

end AuthService
end Gatehouse
