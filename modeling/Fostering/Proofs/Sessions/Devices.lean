import Mathlib.Logic.Function.Basic
import Fostering.Proofs.Sessions.Logins

/-!
# Refresh tokens and the devices they are for

What sessions are for, without a database: on each device a user has one refresh token at most, which
runs out (`Devices`). A token that is given out takes the place of the one before, a token that is
presented is gone, and logging out clears the device (`Devices.next`).

A visit is anything that a client asks of accounts and sessions (`Visit`). Visits act on a database,
and beside it runs the machine that remembers tokens themselves and not their digests (`World`).

* `Devices.mem_put`, `mem_revoke`, `mem_clear`: what is held after each change.
* `Devices.old_of_next`: a token that was not given out at a visit was held before it.
-/

namespace Fostering

/-- A refresh token and when it runs out. -/
structure Ticket where
  token : String
  expiresAt : Instant
  deriving DecidableEq

/-- Whether a refresh token has not run out. -/
def Ticket.isCurrent (t : Ticket) (now : Instant) : Bool := now.stored.before t.expiresAt

/-- The refresh token of each user on each device. -/
abbrev Devices := Int × String → Option Ticket

/-! ## Visits -/

/-- What is asked. -/
inductive Ask where
  | register (request : RegisterUser)
  | login (request : LoginRequest)
  | refresh (request : RefreshRequest)
  | logout (userId : Int) (fingerprint : String)
  | deleteAccount (actor id : Int)
  /-- Whoever runs the service makes a user a moderator. -/
  | promote (id : Int)

/-- Something is asked, at an instant and with fresh bytes. -/
structure Visit where
  ask : Ask
  now : Instant
  random : Bytes

namespace Visit

/-- The refresh token that is made if tokens are given out. -/
def drawn (v : Visit) : String := Uuid.text (v.random.drop 16)

/-- The same, for who asks for tokens. -/
def drawn? (v : Visit) : Option String :=
  match v.ask with
  | .login _ | .refresh _ => some v.drawn
  | _ => none

/-- The device that tokens are asked for. -/
def fingerprint? (v : Visit) : Option String :=
  match v.ask with
  | .login request => some request.fingerprint
  | .refresh request => some request.fingerprint
  | _ => none

/-- The refresh token that is presented. -/
def presented? (v : Visit) : Option String :=
  match v.ask with
  | .refresh request => some request.refreshToken
  | _ => none

/-- What is answered to who asks for tokens, and the database after the visit. -/
def exec (config : TokenConfig) (v : Visit) (db : Database) : Option Logins.Answer × Database :=
  match v.ask with
  | .register request =>
    (none, ((Accounts.register (v.random.take Password.saltLength) request :
      Op Database User).exec v.now db).2)
  | .login request =>
    ((Logins.login config v.random request : Op Database _).exec v.now db).map some id
  | .refresh request =>
    ((Logins.refresh config v.random request : Op Database _).exec v.now db).map some id
  | .logout userId fingerprint =>
    (none, ((Logins.logout userId fingerprint : Op Database Unit).exec v.now db).2)
  | .deleteAccount actor id =>
    (none, ((Accounts.delete actor id : Op Database Unit).exec v.now db).2)
  | .promote id => (none, ((Database.setModerator id).exec v.now db).2)

/-- What is answered to who asks for tokens. -/
def answer? (config : TokenConfig) (v : Visit) (db : Database) : Option Logins.Answer :=
  (v.exec config db).1

/-- The tokens that are given out. -/
def tokens? (config : TokenConfig) (v : Visit) (db : Database) : Option AuthTokens :=
  (v.answer? config db).bind Logins.Answer.tokens?

/-- The database after the visit. -/
def after (config : TokenConfig) (v : Visit) (db : Database) : Database := (v.exec config db).2

end Visit

/-! ## The machine -/

namespace Devices

variable {d : Devices} {key key' : Int × String} {t new : Ticket} {token : String} {now : Instant}

/-- A token is given for a device, in the place of the one before. -/
def put (key : Int × String) (t : Ticket) (d : Devices) : Devices := Function.update d key (some t)

/-- A device is cleared. -/
def clear (key : Int × String) (d : Devices) : Devices := Function.update d key none

/-- A token that is presented before it has run out is gone. -/
def revoke (token : String) (now : Instant) (d : Devices) : Devices := fun key =>
  (d key).filter fun t => !(t.token = token && t.isCurrent now)

/-- Tokens are given out for a device, or none are. -/
def give (config : TokenConfig) (now : Instant) (fingerprint : String) :
    Option AuthTokens → Devices → Devices
  | some tokens, d =>
    d.put (tokens.user.entry.id, fingerprint)
      ⟨tokens.refreshToken, (now.addSeconds (config.refreshDays * 86400)).stored⟩
  | none, d => d

/-- The devices after a visit at which these tokens were given out. -/
def next (config : TokenConfig) (v : Visit) (tokens? : Option AuthTokens) (d : Devices) : Devices :=
  match v.ask with
  | .login request => d.give config v.now request.fingerprint tokens?
  | .refresh request =>
    (d.revoke request.refreshToken v.now).give config v.now request.fingerprint tokens?
  | .logout userId fingerprint => d.clear (userId, fingerprint)
  | .register _ | .deleteAccount _ _ | .promote _ => d

/-- After a token was put on a device, the device holds this one, and the others hold theirs. -/
theorem mem_put : d.put key new key' = some t ↔ key' = key ∧ t = new ∨ key' ≠ key ∧ d key' = some t := by
  unfold put
  by_cases h : key' = key
  · subst h
    rw [Function.update_self]
    simp [eq_comm]
  · rw [Function.update_of_ne h]
    simp [h]

/-- After a device was cleared, the others hold their tokens. -/
theorem mem_clear : d.clear key key' = some t ↔ key' ≠ key ∧ d key' = some t := by
  unfold clear
  by_cases h : key' = key
  · subst h
    rw [Function.update_self]
    simp
  · rw [Function.update_of_ne h]
    simp [h]

/-- After a token was revoked, devices hold what they held unless it is this token and has not run out. -/
theorem mem_revoke :
    d.revoke token now key = some t ↔ d key = some t ∧ ¬(t.token = token ∧ t.isCurrent now = true) := by
  unfold revoke
  rw [Option.filter_eq_some_iff, not_and_or]
  simp

/-- A token that is presented after it has run out, or by who has made it up, is none that is held. -/
theorem revoke_of_not_held
    (h : ∀ key t, d key = some t → ¬(t.token = token ∧ t.isCurrent now = true)) :
    d.revoke token now = d := by
  funext key
  refine Option.ext fun t => ?_
  rw [mem_revoke]
  exact and_iff_left_of_imp (h key t)

/-- A token that is held for one device is gone from there. -/
theorem revoke_of_held (ht : d key = some t) (htoken : t.token = token)
    (hcurrent : t.isCurrent now = true) (hone : ∀ key' t', d key' = some t' → t'.token = token → key' = key) :
    d.revoke token now = d.clear key := by
  funext key'
  refine Option.ext fun t' => ?_
  rw [mem_revoke, mem_clear, and_comm]
  refine and_congr_left fun ht' => ⟨?_, ?_⟩
  · rintro hother rfl
    rw [ht] at ht'
    cases ht'
    exact hother ⟨htoken, hcurrent⟩
  · rintro hkey ⟨htoken', -⟩
    exact hkey (hone key' t' ht' htoken')

/-- A token that is given takes the place of the one before, whether or not that is gone already. -/
theorem put_clear : (d.clear key).put key new = d.put key new := Function.update_idem _ _ _

/-- A token that is held after some were given out was made just then, or was held before. -/
theorem old_of_give {config : TokenConfig} {fingerprint : String} {tokens? : Option AuthTokens}
    (h : d.give config now fingerprint tokens? key = some t) :
    d key = some t ∨ ∃ tokens ∈ tokens?,
      key = (tokens.user.entry.id, fingerprint) ∧ t.token = tokens.refreshToken := by
  rcases tokens? with _ | tokens
  · exact .inl h
  · rcases mem_put.mp h with ⟨hkey, rfl⟩ | ⟨-, h⟩
    · exact .inr ⟨tokens, rfl, hkey, rfl⟩
    · exact .inl h

/-- A token that is held after a visit was given out then, or was held before. -/
theorem old_of_next {config : TokenConfig} {v : Visit} {tokens? : Option AuthTokens}
    (h : d.next config v tokens? key = some t) :
    d key = some t ∨ ∃ fingerprint ∈ v.fingerprint?, ∃ tokens ∈ tokens?,
      key = (tokens.user.entry.id, fingerprint) ∧ t.token = tokens.refreshToken := by
  unfold next at h
  unfold Visit.fingerprint?
  rcases hask : v.ask with request | request | request | ⟨userId, fingerprint⟩ | ⟨actor, id⟩ | id <;>
    simp only [hask] at h
  case login => exact (old_of_give h).imp_right fun h => ⟨request.fingerprint, rfl, h⟩
  case refresh =>
    refine (old_of_give h).imp (fun h => ?_) fun h => ⟨request.fingerprint, rfl, h⟩
    exact (mem_revoke.mp h).1
  case logout => exact .inl (mem_clear.mp h).2
  all_goals exact .inl h

end Devices

/-! ## Both together -/

/-- A database, and the machine that runs beside it. -/
structure World where
  db : Database
  devices : Devices

namespace World

/-- A database whose users have no sessions yet. -/
def start (db : Database) : World := ⟨db, fun _ => none⟩

/-- A visit. -/
def step (config : TokenConfig) (w : World) (v : Visit) : World :=
  ⟨v.after config w.db, w.devices.next config v (v.tokens? config w.db)⟩

/-- Visits one after another. -/
def run (config : TokenConfig) (w : World) (visits : List Visit) : World :=
  visits.foldl (step config) w

variable {config : TokenConfig} {w : World}

/-- Visits that go on do so from the world that the others left. -/
theorem run_append (visits visits' : List Visit) :
    w.run config (visits ++ visits') = (w.run config visits).run config visits' :=
  List.foldl_append

/-- A visit in the middle of a run is a step from the world before it. -/
theorem run_append_cons (visits visits' : List Visit) (v : Visit) :
    w.run config (visits ++ v :: visits') = ((w.run config visits).step config v).run config visits' :=
  run_append visits (v :: visits')

end World

end Fostering
