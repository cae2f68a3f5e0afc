import Fostering.Proofs.Requests.Service
import Fostering.Proofs.Sessions.Rows

/-!
# Logging in, step by step

Logging in and exchanging a refresh token both end with giving tokens for a device (`issue`). Before
that a login looks the user up and checks the password, and an exchange takes the session of the token
away, compares the device, and looks its user up.

* `issue_stores`: no tokens are given and no session changes, or the tokens are stored for the device.
* `issue_succeeds`: when they are.
* `login_cases`, `refresh_cases`: what happens before.
-/

namespace Fostering.Logins

variable {config : TokenConfig} {random : Bytes} {user : User} {fingerprint : String}
  {now : Instant} {db : Database}

/-- What a visit to the service for tokens is answered. -/
abbrev Answer := Except Error (Except Breakdown AuthTokens)

/-- The tokens that an answer holds. -/
def Answer.tokens? : Answer → Option AuthTokens
  | .ok (.ok tokens) => some tokens
  | _ => none

/-- What is prepared for a user: an access token with the role of the user, and a session. -/
theorem prepare_eq_ok {tokens : AuthTokens} {session : Session}
    (h : prepare config now random user fingerprint = .ok (tokens, session)) :
    ∃ accessToken expiresAt,
      Token.issue config now random user.entry.id user.isModerator = .ok accessToken ∧
      Lifetime.afterDays now config.refreshDays = .ok expiresAt ∧
      tokens = ⟨accessToken, Uuid.text (random.drop 16), config.accessMins * 60, user⟩ ∧
      session = { userId := user.entry.id, tokenHash := refreshDigest (Uuid.text (random.drop 16)),
                  fingerprint, expiresAt } := by
  unfold prepare at h
  rcases haccess : Token.issue config now random user.entry.id user.isModerator with fault | accessToken
  · rw [haccess] at h
    cases h
  · rcases hexpiry : Lifetime.afterDays now config.refreshDays with fault | expiresAt
    · rw [haccess, hexpiry] at h
      cases h
    · rw [haccess, hexpiry] at h
      cases h
      exact ⟨accessToken, expiresAt, rfl, rfl, rfl, rfl⟩

/-- The lifetimes of tokens that are made now have ends: that of access tokens a number, that of
refresh tokens a date with a stored form. -/
structure Lasts (config : TokenConfig) (now : Instant) : Prop where
  access : ∃ seconds, Lifetime.ofMinutes config.accessMins = .ok seconds ∧
    ∃ second, Lifetime.endSecond now seconds = .ok second
  refresh : ∃ expiresAt, Lifetime.afterDays now config.refreshDays = .ok expiresAt ∧
    expiresAt.isStorable = true

/-- Tokens can be prepared as long as their lifetimes have ends. -/
theorem Lasts.prepare (h : Lasts config now) (random : Bytes) (user : User) (fingerprint : String) :
    ∃ accessToken expiresAt,
      Token.issue config now random user.entry.id user.isModerator = .ok accessToken ∧
      expiresAt.isStorable = true ∧
      Logins.prepare config now random user fingerprint =
        .ok (⟨accessToken, Uuid.text (random.drop 16), config.accessMins * 60, user⟩,
          { userId := user.entry.id, tokenHash := refreshDigest (Uuid.text (random.drop 16)),
            fingerprint, expiresAt }) := by
  obtain ⟨seconds, hseconds, second, hsecond⟩ := h.access
  obtain ⟨expiresAt, hexpiry, hstorable⟩ := h.refresh
  let claims : Claims := ⟨user.entry.id, user.isModerator, second, now.seconds, Uuid.text random⟩
  have hclaims : Token.claims config now random user.entry.id user.isModerator = .ok claims := by
    unfold Token.claims
    rw [hseconds]
    change (Lifetime.endSecond now seconds >>= _) = _
    rw [hsecond]
    rfl
  have haccess : Token.issue config now random user.entry.id user.isModerator =
      .ok (Token.sign config.secret claims) := by
    unfold Token.issue
    rw [hclaims]
    rfl
  refine ⟨Token.sign config.secret claims, expiresAt, haccess, hstorable, ?_⟩
  unfold Logins.prepare
  rw [haccess, hexpiry]
  rfl

/-- The end of a lifetime comes that many days later. -/
theorem eq_of_afterDays {days : Int} {later : Instant} (h : Lifetime.afterDays now days = .ok later) :
    later = now.addSeconds (days * 86400) := by
  unfold Lifetime.afterDays at h
  split_ifs at h with hdays
  simp only at h
  split_ifs at h
  cases h
  rfl

/-- **A user who is there gets tokens for any device, as long as lifetimes have ends and the fresh refresh
token is not in use. The session is stored.** -/
theorem issue_succeeds (hkept : db.IsKept) (hlasts : Lasts config now)
    (hdevice : isStorableText fingerprint = true)
    (hunused : ∀ r ∈ db.tables.sessions, r.tokenHash ≠ refreshDigest (Uuid.text (random.drop 16)))
    (huser : user ∈ db.tables.users) :
    ∃ accessToken given session db',
      Token.issue config now random user.entry.id user.isModerator = .ok accessToken ∧
      prepare config now random user fingerprint =
        .ok (⟨accessToken, Uuid.text (random.drop 16), config.accessMins * 60, user⟩, given) ∧
      (issue config random user fingerprint).exec now db =
        (.ok (.ok ⟨accessToken, Uuid.text (random.drop 16), config.accessMins * 60, user⟩), db') ∧
      Database.Stores given session db db' := by
  obtain ⟨accessToken, expiresAt, haccess, hexpiry, hprepare⟩ := hlasts.prepare random user fingerprint
  let given : Session := { userId := user.entry.id,
                           tokenHash := refreshDigest (Uuid.text (random.drop 16)), fingerprint, expiresAt }
  have hstorable : Schema.isStorable given = true := by
    have hdigest : isStorableText given.tokenHash = true := isStorableText_refreshDigest _
    change ([given.tokenHash, given.fingerprint].all isStorableText &&
      [given.expiresAt].all Instant.isStorable) = true
    rw [List.all_cons, List.all_cons, hdigest, hdevice, List.all_cons, hexpiry]
    rfl
  have hid : Schema.hasId db.tables.users given.userId = true :=
    List.any_eq_true.mpr ⟨user, huser, decide_eq_true rfl⟩
  -- with a digest that is not in use and a user who is there nothing can refuse the row
  obtain ⟨session, db', hupsert⟩ := Database.upsertSession_succeeds hkept hstorable hunused hid now
  have hstores : Database.Stores given session db db' := by
    rcases Database.upsertSession_stores given now hkept with ⟨_, _, h, -⟩ | ⟨_, _, h, hstores⟩
    · rw [hupsert] at h
      cases h
    · rw [hupsert] at h
      cases h
      exact hstores
  have hupsert' : (Store.Sessions.upsert given : Op Database Session).exec now db = (.ok session, db') :=
    hupsert
  have hnow : (Op.now : Op Database Instant).exec now db = (.ok now, db) := rfl
  refine ⟨accessToken, given, session, db', haccess, hprepare, ?_, hstores⟩
  unfold issue
  rw [Op.exec_bind_ok hnow, hprepare]
  change (Store.Sessions.upsert given >>= _ : Op Database _).exec now db = _
  rw [Op.exec_bind_ok hupsert']
  rfl

/-- No tokens are given and a session is refused at most, or tokens are prepared and their session is
stored. -/
theorem issue_cases (config : TokenConfig) (random : Bytes) (user : User) (fingerprint : String)
    (now : Instant) (db : Database) :
    (∃ (answer : Answer) (db' : Database),
        (issue config random user fingerprint).exec now db = (answer, db') ∧ answer.tokens? = none ∧
        (db' = db ∨ ∃ given cause, (Database.upsertSession given).exec now db = (.error cause, db'))) ∨
      ∃ tokens given session db', prepare config now random user fingerprint = .ok (tokens, given) ∧
        (issue config random user fingerprint).exec now db = (.ok (.ok tokens), db') ∧
        (Database.upsertSession given).exec now db = (.ok session, db') := by
  have hnow : (Op.now : Op Database Instant).exec now db = (.ok now, db) := rfl
  unfold issue
  rw [Op.exec_bind_ok hnow]
  rcases hprepare : prepare config now random user fingerprint with fault | ⟨tokens, given⟩
  · exact .inl ⟨.ok (.error (.lifetime fault)), db, rfl, rfl, .inl rfl⟩
  rcases hupsert : (Database.upsertSession given).exec now db with ⟨cause | session, db'⟩
  · exact .inl ⟨.error cause, db', Op.exec_bind_error hupsert, rfl, .inr ⟨given, cause, hupsert⟩⟩
  · exact .inr ⟨tokens, given, session, db', rfl, Op.exec_bind_ok hupsert, hupsert⟩

/-- Tokens that are given come with the fresh refresh token. -/
theorem refreshToken_of_issue {tokens : AuthTokens}
    (h : Answer.tokens? ((issue config random user fingerprint).exec now db).1 = some tokens) :
    tokens.refreshToken = Uuid.text (random.drop 16) := by
  rcases issue_cases config random user fingerprint now db with
    ⟨answer, db', heq, hnone, -⟩ | ⟨tokens', given, session, db', hprepare, heq, -⟩
  · rw [heq] at h
    change answer.tokens? = some tokens at h
    rw [hnone] at h
    cases h
  · obtain ⟨accessToken, expiresAt, -, -, rfl, -⟩ := prepare_eq_ok hprepare
    rw [heq] at h
    cases h
    rfl

/-- No tokens are given and no session changes, or tokens are prepared and stored for the device. -/
theorem issue_stores (config : TokenConfig) (random : Bytes) (user : User) (fingerprint : String)
    (now : Instant) (hkept : db.IsKept) :
    (∃ (answer : Answer) (db' : Database),
        (issue config random user fingerprint).exec now db = (answer, db') ∧ answer.tokens? = none ∧
        Database.KeepsSessions db db') ∨
      ∃ tokens given session db', prepare config now random user fingerprint = .ok (tokens, given) ∧
        (issue config random user fingerprint).exec now db = (.ok (.ok tokens), db') ∧
        Database.Stores given session db db' := by
  rcases issue_cases config random user fingerprint now db with
    ⟨answer, db', heq, hnone, rfl | ⟨given, cause, hupsert⟩⟩ |
      ⟨tokens, given, session, db', hprepare, heq, hupsert⟩
  · exact .inl ⟨answer, db', heq, hnone, Std.Refl.refl db'⟩
  · rcases Database.upsertSession_stores given now hkept with ⟨_, _, h, hkeeps, -⟩ | ⟨_, _, h, -⟩
    · rw [hupsert] at h
      cases h
      exact .inl ⟨answer, db', heq, hnone, hkeeps⟩
    · rw [hupsert] at h
      cases h
  · rcases Database.upsertSession_stores given now hkept with ⟨_, _, h, -⟩ | ⟨_, _, h, hstores⟩
    · rw [hupsert] at h
      cases h
    · rw [hupsert] at h
      cases h
      exact .inr ⟨tokens, given, session, db', hprepare, heq, hstores⟩

/-- Whether a user is live and goes by a name. -/
def goesBy (name : String) (u : User) : Bool := u.username = name && u.entry.isLive

/-- A user goes by their name as long as the account is live. -/
theorem goesBy_iff {name : String} {u : User} :
    goesBy name u = true ↔ u.username = name ∧ u.entry.isLive = true := by
  simp [goesBy]

/-- A user is looked up by name. -/
theorem exec_findByUsername {name : String} (hname : isStorableText name = true) (now : Instant)
    (db : Database) : (Store.Users.findByUsername name : Op Database (Option User)).exec now db =
      (.ok (db.tables.users.find? (goesBy name)), db) :=
  (Op.exec_bind_ok (Op.exec_guard_of_true hname Database.unstorable now db)).trans
    (Database.exec_find? (goesBy name) now db)

/-- A login is turned down and nothing happens, or it gives tokens to a live user with the name. -/
theorem login_cases (config : TokenConfig) (random : Bytes) (request : LoginRequest) (now : Instant)
    (db : Database) :
    (∃ answer : Answer, (login config random request : Op Database _).exec now db = (answer, db) ∧
        answer.tokens? = none) ∨
      ∃ user ∈ db.tables.users, user.username = request.username ∧ user.entry.isLive = true ∧
        Password.verify request.password user.passwordHash = .ok true ∧
        (login config random request : Op Database _).exec now db =
          (issue config random user request.fingerprint).exec now db := by
  unfold login
  rcases hname : isStorableText request.username
  · have hfind : (Store.Users.findByUsername request.username : Op Database (Option User)).exec now db =
        (.error Database.unstorable, db) :=
      Op.exec_bind_error (Op.exec_guard_of_false hname Database.unstorable now db)
    exact .inl ⟨_, Op.exec_bind_error hfind, rfl⟩
  rw [Op.exec_bind_ok (exec_findByUsername hname now db)]
  rcases hfound : db.tables.users.find? (goesBy request.username) with _ | user
  · exact .inl ⟨.error badCredentials, rfl, rfl⟩
  · have hit := goesBy_iff.mp (List.find?_some hfound)
    rw [Op.exec_bind_ok (Op.exec_orRefuse_some badCredentials user now db)]
    rcases hverify : Password.verify request.password user.passwordHash with fault | verdict
    · cases fault with
      | lanesOverflow => exact .inl ⟨.ok (.error .lanes), rfl, rfl⟩
      | _ => exact .inl ⟨_, rfl, rfl⟩
    · cases verdict with
      | false => exact .inl ⟨.error badCredentials, rfl, rfl⟩
      | true =>
          refine .inr ⟨user, List.mem_of_find?_eq_some hfound, hit.1, hit.2, hverify, ?_⟩
          rfl

/-- The owner of a session is a live user, or gone. -/
theorem findOwner_cases (id : Int) (now : Instant) (db : Database) :
    (∃ user ∈ db.tables.users, user.entry.id = id ∧ user.entry.isLive = true ∧
        (findOwner id).exec now db = (.ok user, db)) ∨
      ((∀ user ∈ db.tables.users, user.entry.id = id → user.entry.isLive = false) ∧
        (findOwner id : Op Database User).exec now db = (.error userGone, db)) := by
  rw [findOwner_eq]
  rcases Database.find_cases User id now db with ⟨user, hmem, hid, hlive, hfind⟩ | ⟨hnone, hfind⟩
  · have hfind' : (Store.Records.find id : Op Database User).exec now db = (.ok user, db) := hfind
    refine .inl ⟨user, hmem, hid, hlive, ?_⟩
    change (rereadOwner ((Store.Records.find id : Op Database User).exec now db).1, _) = _
    rw [hfind']
    rfl
  · have hfind' : (Store.Records.find id : Op Database User).exec now db =
        (.error (Database.notFound User id), db) := hfind
    refine .inr ⟨hnone, ?_⟩
    change (rereadOwner ((Store.Records.find id : Op Database User).exec now db).1, _) = _
    rw [hfind']
    rfl

/-- Logging out erases a session, whether or not there was one. -/
theorem logout_snd (userId : Int) (fingerprint : String) (now : Instant) (db : Database) :
    ((logout userId fingerprint : Op Database Unit).exec now db).2 =
      ((Database.deleteSession userId fingerprint).exec now db).2 := by
  rcases Op.exec_bind_snd (Database.deleteSession userId fingerprint) (fun _ => pure ()) now db with
    h | ⟨removed, -, h⟩
  · exact h
  · exact h

/-- The session that a refresh token is exchanged for. -/
def Presents (request : RefreshRequest) (now : Instant) : Session → Bool :=
  Database.isCurrent (refreshDigest request.refreshToken) now.stored

/-- The sessions that are left once the one with the refresh token has been taken away. -/
abbrev taken (db : Database) (request : RefreshRequest) (now : Instant) : Database :=
  db.withoutSessions (Presents request now)

/-- **An exchange takes the session away. It gives nothing if there was none, if another device asked
or if the user is gone, and otherwise it gives tokens to the user.** -/
theorem refresh_cases (config : TokenConfig) (random : Bytes) (request : RefreshRequest)
    (now : Instant) (db : Database) :
    ((∀ r ∈ db.tables.sessions, Presents request now r = false) ∧
        (refresh config random request : Op Database _).exec now db =
          (.error badRefreshToken, taken db request now)) ∨
      ∃ r ∈ db.tables.sessions, Presents request now r = true ∧
        ((r.fingerprint ≠ request.fingerprint ∧
            (refresh config random request : Op Database _).exec now db =
              (.error otherDevice, taken db request now)) ∨
          (r.fingerprint = request.fingerprint ∧
            (∀ user ∈ db.tables.users, user.entry.id = r.userId → user.entry.isLive = false) ∧
            (refresh config random request : Op Database _).exec now db =
              (.error userGone, taken db request now)) ∨
          (r.fingerprint = request.fingerprint ∧ ∃ user ∈ db.tables.users,
            user.entry.id = r.userId ∧ user.entry.isLive = true ∧
            (refresh config random request : Op Database _).exec now db =
              (issue config random user request.fingerprint).exec now (taken db request now))) := by
  have htake : (Store.Sessions.takeByHash (refreshDigest request.refreshToken) :
      Op Database (Option Session)).exec now db =
      (.ok (db.tables.sessions.find? (Presents request now)), taken db request now) :=
    Database.exec_takeSession request.refreshToken now db
  unfold refresh
  -- the row is taken before anything is checked, which is why each outcome has the same database
  -- behind it
  rw [Op.exec_bind_ok htake]
  rcases hfound : db.tables.sessions.find? (Presents request now) with _ | r
  · refine .inl ⟨fun r hr => ?_, rfl⟩
    simpa using List.find?_eq_none.mp hfound r hr
  refine .inr ⟨r, List.mem_of_find?_eq_some hfound, List.find?_some hfound, ?_⟩
  rw [Op.exec_bind_ok (Op.exec_orRefuse_some badRefreshToken r now _)]
  by_cases hdevice : r.fingerprint = request.fingerprint
  · have hguard := Op.exec_guard_of_true (decide_eq_true hdevice) otherDevice now
      (taken db request now)
    rw [Op.exec_bind_ok hguard]
    rcases findOwner_cases r.userId now (taken db request now) with
      ⟨user, hmem, hid, hlive, hfind⟩ | ⟨hnone, hfind⟩
    · exact .inr (.inr ⟨hdevice, user, hmem, hid, hlive, Op.exec_bind_ok hfind⟩)
    · exact .inr (.inl ⟨hdevice, hnone, Op.exec_bind_error hfind⟩)
  · have hguard := Op.exec_guard_of_false (decide_eq_false hdevice) otherDevice now
      (taken db request now)
    exact .inl ⟨hdevice, Op.exec_bind_error hguard⟩

end Fostering.Logins
