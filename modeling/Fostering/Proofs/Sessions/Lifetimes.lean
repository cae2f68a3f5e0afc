import Fostering.Proofs.Claims
import Fostering.Proofs.Decimal.Digits
import Fostering.Proofs.Sessions.Credentials

/-!
# Which lifetimes work

The service starts with any two lifetimes that are numbers of 64 bits. Whether a login works under them is
seen at the login: the end of the access token has to be a second of the clock that has not passed by more
than clocks may differ, and the end of the refresh token a date after now.

* `Config.read_lifetimes`: no pair of lifetimes is refused at the start.
* `Token.issue_eq_ok_iff`, `Token.validates_iff`: access tokens.
* `Logins.current_of_exchanged`, `Logins.exchanged_of_current`: refresh tokens.
* `Logins.starts_and_works_iff`: the lifetimes under which logins work.
-/

namespace Fostering

open Database

/-! ## The start -/

/-- The variables that say how tokens are made. -/
def Config.tokenVariables (secret : String) (mins days : Int) : Config.Environment :=
  [("JWT_SECRET", secret), ("JWT_ACCESS_EXPIRY_MINS", toString mins),
    ("JWT_REFRESH_EXPIRY_DAYS", toString days)]

/-- Lifetimes are read as they are set, whatever 64 bits can hold. -/
theorem Config.readToken_lifetimes {secret : String} (hsecret : secret ≠ "") {mins days : Int}
    (hmins : Bounds.i64.Holds mins) (hdays : Bounds.i64.Holds days) :
    readToken (tokenVariables secret mins days) = .ok ⟨secret, mins, days⟩ := by
  have hread {n : Int} (hn : Bounds.i64.Holds n) : Bounds.i64.read (toString n) = .ok n :=
    Bounds.read_toString (by decide) (by decide) hn
  have hnumber {n : Int} (hn : Bounds.i64.Holds n) {env : Environment} {name : String}
      (hset : env.lookup name = some (toString n)) (standard : Int) :
      readNumber env name .i64 "i64" standard = .ok n := by
    unfold readNumber
    rw [hset]
    dsimp only
    rw [hread hn]
  let env : Environment := tokenVariables secret mins days
  have hset : env.lookup "JWT_SECRET" = some secret := rfl
  have haccess : readNumber env "JWT_ACCESS_EXPIRY_MINS" .i64 "i64" 15 = .ok mins := hnumber hmins rfl 15
  have hrefresh : readNumber env "JWT_REFRESH_EXPIRY_DAYS" .i64 "i64" 30 = .ok days := hnumber hdays rfl 30
  have hempty : ¬secret.isEmpty = true := fun h => hsecret (String.isEmpty_iff.mp h)
  unfold readToken
  rw [hset, haccess, hrefresh]
  change (if secret.isEmpty = true then _ else _) = _
  rw [if_neg hempty]
  rfl

/-- **The service starts with any two lifetimes of 64 bits.** -/
theorem Config.read_lifetimes {secret : String} (hsecret : secret ≠ "") {mins days : Int}
    (hmins : Bounds.i64.Holds mins) (hdays : Bounds.i64.Holds days) :
    ∃ config, Config.read (tokenVariables secret mins days) = .ok config ∧
      config.token = ⟨secret, mins, days⟩ := by
  let env : Environment := tokenVariables secret mins days
  have hsort : readDefaultSort env = .ok ⟨"created_at", .desc⟩ := by
    have hunset : (env.lookup "DEFAULT_SORT").getD "created_at:desc" = "created_at:desc" := rfl
    have hread : DefaultOrder.read "created_at:desc" = .ok ⟨"created_at", .desc⟩ := by decide +kernel
    unfold readDefaultSort
    rw [hunset, hread]
  refine ⟨⟨"0.0.0.0", 3000, readOrigins "http://localhost:5173", 30, ⟨secret, mins, days⟩,
    ⟨"created_at", .desc⟩, 10⟩, ?_, rfl⟩
  unfold Config.read
  change (readDefaultSort env >>= fun _ => readToken env >>= _) = _
  rw [hsort]
  change (readToken env >>= _) = _
  rw [readToken_lifetimes hsecret hmins hdays]
  rfl

/-! ## Access tokens -/

namespace Token

variable {config : TokenConfig} {now : Instant} {random : Bytes} {user : Int} {moderator : Bool}

/-- The claims of a token that is made now. -/
def claimsAt (config : TokenConfig) (now : Instant) (random : Bytes) (user : Int) (moderator : Bool) : Claims :=
  ⟨user, moderator, now.seconds + config.accessMins * 60, now.seconds, Uuid.text random⟩

/-- A token can be made if the seconds of its lifetime and the second of its end have numbers. -/
theorem issue_eq_ok_iff {token : String} :
    issue config now random user moderator = .ok token ↔
      Lifetime.fitsClock (config.accessMins * 60) = true ∧
        Lifetime.fitsClock (now.seconds + config.accessMins * 60) = true ∧
        token = sign config.secret (claimsAt config now random user moderator) := by
  unfold issue claims Lifetime.ofMinutes
  by_cases hminutes : Lifetime.fitsClock (config.accessMins * 60) = true
  · rw [if_pos hminutes]
    change Except.map _ (Lifetime.endSecond now (config.accessMins * 60) >>= _) = _ ↔ _
    unfold Lifetime.endSecond
    by_cases hend : Lifetime.fitsClock (now.seconds + config.accessMins * 60) = true
    · rw [if_pos hend]
      exact ⟨fun h => ⟨hminutes, hend, (Except.ok.inj h).symm⟩, fun ⟨_, _, h⟩ => h ▸ rfl⟩
    · rw [if_neg hend]
      exact ⟨nofun, fun ⟨_, h, _⟩ => absurd h hend⟩
  · rw [if_neg hminutes]
    exact ⟨nofun, fun ⟨h, _⟩ => absurd h hminutes⟩

/-- What a clock can show, a claim can hold. -/
theorem fits_of_fitsClock {n : Int} (h : Lifetime.fitsClock n = true) : Json.Width.w64.fits n = true := h

/-- A token that is made now is believed now if its end is not below zero and has not passed by more than
clocks may differ. -/
theorem validates_iff {token : String} (h : issue config now random user moderator = .ok token)
    (huser : Json.Width.w64.fits user = true) (hclock : Lifetime.fitsClock now.seconds = true)
    {c : Claims} : validate config.secret now token = .ok c ↔
      (-1 ≤ config.accessMins ∧ 0 ≤ now.seconds + config.accessMins * 60) ∧
        c = claimsAt config now random user moderator := by
  obtain ⟨-, hend, rfl⟩ := issue_eq_ok_iff.mp h
  have hfits : (claimsAt config now random user moderator).Fits :=
    ⟨huser, fits_of_fitsClock hend, fits_of_fitsClock hclock⟩
  rw [validate_sign_eq config.secret now hfits]
  change (if now.seconds + config.accessMins * 60 < 0 then _
    else if now.seconds + config.accessMins * 60 < now.seconds - 60 then _ else _) = _ ↔ _
  split_ifs with hnever hlate
  · exact iff_of_false nofun fun h => by omega
  · exact iff_of_false nofun fun h => by omega
  · exact ⟨fun h => ⟨by omega, (Except.ok.inj h).symm⟩, fun ⟨_, h⟩ => congrArg Except.ok h.symm⟩

end Token

/-! ## Refresh tokens -/

/-- What comes a millisecond later is stored as something that comes later. -/
theorem Instant.before_stored {a b : Instant} (h : a.toNanos + 1000000 ≤ b.toNanos) :
    a.stored.before b.stored = true := by
  have hmicros : Int.tdiv (a.toNanos - storeEpoch * 1000000000) 1000 <
      Int.tdiv (b.toNanos - storeEpoch * 1000000000) 1000 := by
    have ha := Int.mul_tdiv_add_tmod (a.toNanos - storeEpoch * 1000000000) 1000
    have hb := Int.mul_tdiv_add_tmod (b.toNanos - storeEpoch * 1000000000) 1000
    have hrest := Int.lt_tmod_of_pos (a.toNanos - storeEpoch * 1000000000) (show (0 : Int) < 1000 by decide)
    have hrest' := Int.tmod_lt_of_pos (b.toNanos - storeEpoch * 1000000000) (show (0 : Int) < 1000 by decide)
    omega
  simp only [before, Bool.or_eq_true, Bool.and_eq_true, decide_eq_true_eq, beq_iff_eq]
  unfold stored ofNanos
  dsimp only
  omega

namespace Logins

variable {config : TokenConfig} {now : Instant} {random : Bytes} {given session : Session} {db db' : Database}
  {token fingerprint : String} {user : User}

/-- A refresh token that has just been stored is the only one with its digest that may be current. -/
theorem eq_of_presents (hstores : Database.Stores given session db db')
    (hunused : ∀ r ∈ db.tables.sessions, r.tokenHash ≠ refreshDigest token) {r : Session}
    (hr : r ∈ db'.tables.sessions) (hpresents : Presents ⟨token, fingerprint⟩ now r = true) : r = session := by
  rcases (hstores.mem_iff r).mp hr with rfl | ⟨hold, -⟩
  · rfl
  · exact absurd (of_decide_eq_true (Bool.and_eq_true_iff.mp hpresents).1) (hunused r hold)

/-- Only a refresh token that has not run out is exchanged. -/
theorem current_of_exchanged (hstores : Database.Stores given session db db')
    (hunused : ∀ r ∈ db.tables.sessions, r.tokenHash ≠ refreshDigest token) {tokens : AuthTokens}
    {db'' : Database} (h : (refresh config random ⟨token, fingerprint⟩ : Op Database _).exec now db' =
      (.ok (.ok tokens), db'')) : now.stored.before given.expiresAt.stored = true := by
  rcases refresh_cases config random ⟨token, fingerprint⟩ now db' with ⟨-, heq⟩ | ⟨r, hr, hpresented, -⟩
  · rw [heq] at h
    cases h
  · obtain rfl := eq_of_presents hstores hunused hr hpresented
    rw [← hstores.expiry]
    exact (Bool.and_eq_true_iff.mp hpresented).2

/-- A refresh token that has just been stored is exchanged on its device if it has not run out, as long as
lifetimes have ends. -/
theorem exchanged_of_current (hstores : Database.Stores given session db db')
    (hdigest : given.tokenHash = refreshDigest token) (hprint : given.fingerprint = fingerprint)
    (hdevice : isStorableText fingerprint = true)
    (hunused : ∀ r ∈ db.tables.sessions, r.tokenHash ≠ refreshDigest token)
    (hfresh : ∀ r ∈ db.tables.sessions, r.tokenHash ≠ refreshDigest (Uuid.text (random.drop 16)))
    (huser : user ∈ db.tables.users) (hlive : user.entry.isLive = true) (hid : given.userId = user.entry.id)
    (hlasts : Lasts config now) (hcurrent : now.stored.before given.expiresAt.stored = true) :
    ∃ tokens db'', (refresh config random ⟨token, fingerprint⟩ : Op Database _).exec now db' =
      (.ok (.ok tokens), db'') := by
  have hpresents : Presents ⟨token, fingerprint⟩ now session = true := by
    unfold Presents isCurrent
    rw [hstores.digest, hdigest, hstores.expiry, decide_eq_true rfl, Bool.true_and]
    exact hcurrent
  have hsession : session ∈ db'.tables.sessions := (hstores.mem_iff session).mpr (.inl rfl)
  have hsame {r : Session} (hr : r ∈ db'.tables.sessions) (h : Presents ⟨token, fingerprint⟩ now r = true) :
      r = session := eq_of_presents hstores hunused hr h
  have huser' : user ∈ db'.tables.users := hstores.users ▸ huser
  rcases refresh_cases config random ⟨token, fingerprint⟩ now db' with
    ⟨hnone, -⟩ | ⟨r, hr, hpresented, ⟨hother, -⟩ | ⟨-, hgone, -⟩ | ⟨-, owner, howner, -, -, heq⟩⟩
  · rw [hnone session hsession] at hpresents
    cases hpresents
  · exact absurd (hsame hr hpresented ▸ hstores.device.trans hprint) hother
  · have howns : user.entry.id = r.userId := by
      rw [hsame hr hpresented, hstores.user, hid]
    rw [hgone user huser' howns] at hlive
    cases hlive
  · let left : Database := taken db' ⟨token, fingerprint⟩ now
    -- What is left has no session that was not there before the refresh token was stored.
    have hfresh' : ∀ r ∈ left.tables.sessions, r.tokenHash ≠ refreshDigest (Uuid.text (random.drop 16)) := by
      intro r hr
      obtain ⟨hr', hnot⟩ := Database.mem_withoutSessions.mp hr
      rcases (hstores.mem_iff r).mp hr' with rfl | ⟨hold, -⟩
      · rw [hpresents] at hnot
        cases hnot
      · exact hfresh r hold
    have howner' : owner ∈ left.tables.users := howner
    obtain ⟨accessToken, -, -, db'', -, -, hissue, -⟩ :=
      issue_succeeds (hstores.kept.withoutSessions _) hlasts hdevice hfresh' howner'
    exact ⟨_, db'', heq.trans hissue⟩

end Logins

/-! ## Logins -/

/-- Lifetimes that work at an instant. -/
structure TokenConfig.IsUsable (config : TokenConfig) (now : Instant) : Prop where
  /-- The access token has not run out by more than clocks may differ, which is a minute. -/
  access : -1 ≤ config.accessMins
  dated : 0 ≤ now.seconds + config.accessMins * 60
  clock : now.seconds + config.accessMins * 60 < 2 ^ 63
  /-- The refresh token has not run out, and its end has a date. -/
  refresh : 1 ≤ config.refreshDays
  date : ∃ later, Lifetime.afterDays now config.refreshDays = .ok later

/-- Lifetimes that are usable have ends. -/
theorem TokenConfig.IsUsable.lasts {config : TokenConfig} {now : Instant} (h : config.IsUsable now)
    (hnow : 0 ≤ now.seconds) : Logins.Lasts config now := by
  have hclock {n : Int} (hlow : -60 ≤ n) (hhigh : n < 2 ^ 63) : Lifetime.fitsClock n = true := by
    unfold Lifetime.fitsClock
    rw [Bool.and_eq_true, decide_eq_true_eq, decide_eq_true_eq]
    omega
  obtain ⟨haccess, hdated, hend, hrefresh, later, hlater⟩ := h
  have hseconds : later.seconds = now.seconds + config.refreshDays * 86400 := by
    rw [Logins.eq_of_afterDays hlater]
    rfl
  refine ⟨⟨_, if_pos (hclock ?_ ?_), _, if_pos (hclock ?_ ?_)⟩,
    later, hlater, Instant.isStorable_of_dated ?_⟩
  all_goals omega

/-- A refresh token that is made now has not run out if its lifetime is a day or more. -/
theorem Lifetime.current_iff {now later : Instant} {days : Int} (h : afterDays now days = .ok later) :
    now.stored.before later.stored = true ↔ 1 ≤ days := by
  have hnanos : later.toNanos = now.toNanos + days * 86400000000000 := by
    rw [Logins.eq_of_afterDays h]
    unfold Instant.toNanos Instant.addSeconds
    dsimp only
    omega
  refine ⟨fun hbefore => ?_, fun hdays => Instant.before_stored (by omega)⟩
  by_contra hdays
  rw [Instant.stored_not_before (by omega)] at hbefore
  cases hbefore

/-- Tokens are good at once: the access token has the configured lifetime and is believed, and the refresh
token is exchanged on the device that it was made for. -/
structure AuthTokens.AreGood (tokens : AuthTokens) (config : TokenConfig) (fingerprint : String)
    (random : Bytes) (now : Instant) (db : Database) : Prop where
  seconds : tokens.expiresIn = config.accessMins * 60
  believed : ∃ claims, Token.validate config.secret now tokens.accessToken = .ok claims ∧
    claims.exp - claims.iat = config.accessMins * 60 ∧ claims.sub = tokens.user.entry.id ∧
    claims.moderator = tokens.user.isModerator
  exchanged : ∃ tokens' db', (Logins.refresh config random ⟨tokens.refreshToken, fingerprint⟩ :
    Op Database _).exec now db = (.ok (.ok tokens'), db')

namespace Logins

/-- A login gives tokens to a user that are good at once. -/
def Works (config : TokenConfig) (random random' : Bytes) (request : LoginRequest) (now : Instant)
    (db : Database) (u : User) : Prop :=
  ∃ tokens db', (login config random request : Op Database _).exec now db = (.ok (.ok tokens), db') ∧
    tokens.user = u ∧ tokens.AreGood config request.fingerprint random' now db'

/-- The ends of lifetimes that begin now have a number and a date. -/
structure HaveEnds (config : TokenConfig) (now : Instant) : Prop where
  minutes : Lifetime.fitsClock (config.accessMins * 60) = true
  second : Lifetime.fitsClock (now.seconds + config.accessMins * 60) = true
  date : ∃ later, Lifetime.afterDays now config.refreshDays = .ok later

/-- The service breaks off if and only if a lifetime has no end. -/
theorem issue_breaks_iff (config : TokenConfig) (random : Bytes) (user : User) (fingerprint : String)
    (now : Instant) (db : Database) :
    (∃ fault, (issue config random user fingerprint).exec now db = (.ok (.error (.lifetime fault)), db)) ↔
      ¬HaveEnds config now := by
  have hnow : (Op.now : Op Database Instant).exec now db = (.ok now, db) := rfl
  unfold issue
  rw [Op.exec_bind_ok hnow]
  rcases hprepare : prepare config now random user fingerprint with fault | ⟨tokens, given⟩
  -- a lifetime that breaks has no end, for nothing else in a preparation can fail
  · refine iff_of_true ⟨fault, rfl⟩ fun ⟨hminutes, hsecond, later, hlater⟩ => ?_
    have haccess : Token.issue config now random user.entry.id user.isModerator = .ok _ :=
      Token.issue_eq_ok_iff.mpr ⟨hminutes, hsecond, rfl⟩
    unfold prepare at hprepare
    rw [haccess, hlater] at hprepare
    cases hprepare
  · obtain ⟨accessToken, expiresAt, haccess, hexpiry, -⟩ := prepare_eq_ok hprepare
    obtain ⟨hminutes, hsecond, -⟩ := Token.issue_eq_ok_iff.mp haccess
    refine iff_of_false ?_ (not_not_intro ⟨hminutes, hsecond, expiresAt, hexpiry⟩)
    rintro ⟨fault, hbroken⟩
    change (Store.Sessions.upsert given >>= fun _ => pure (.ok tokens) :
      Op Database (Except Breakdown AuthTokens)).exec now db = _ at hbroken
    rcases hupsert : (Store.Sessions.upsert given : Op Database Session).exec now db with ⟨cause | session, db'⟩
    · rw [Op.exec_bind_error hupsert] at hbroken
      cases hbroken
    · rw [Op.exec_bind_ok hupsert] at hbroken
      cases hbroken

section

variable {config : TokenConfig} {random random' : Bytes} {request : LoginRequest} {now : Instant} {u : User}
  {db : Database} (hkept : db.IsKept) (hnames : (db.tables.users.map User.username).Nodup)
  (hcorrect : request.IsCorrect db u) (hname : isStorableText request.username = true)
  (hid : Json.Width.w64.fits u.entry.id = true) (hclock : Lifetime.fitsClock now.seconds = true)
  (hunused : ∀ r ∈ db.tables.sessions, r.tokenHash ≠ refreshDigest (Uuid.text (random.drop 16)))
include hkept hnames hcorrect hname hid hclock hunused

/-- Lifetimes under which a login works are usable. -/
theorem Works.isUsable (h : Works config random random' request now db u) : config.IsUsable now := by
  obtain ⟨tokens, db', hlogin, -, hgood⟩ := h
  have hissue : (issue config random u request.fingerprint).exec now db = (.ok (.ok tokens), db') :=
    (exec_login_of_isCorrect hcorrect hname hnames config random now).symm.trans hlogin
  rcases issue_stores config random u request.fingerprint now hkept with
    ⟨answer, db₁, heq, hnone, -⟩ | ⟨tokens₁, given, session, db₁, hprepare, heq, hstores⟩
  · rw [hissue] at heq
    cases heq
    cases hnone
  · rw [hissue] at heq
    cases heq
    obtain ⟨accessToken, expiresAt, haccess, hexpiry, rfl, rfl⟩ := prepare_eq_ok hprepare
    obtain ⟨claims, hvalid, -⟩ := hgood.believed
    obtain ⟨⟨hlow, hdated⟩, -⟩ := (Token.validates_iff haccess hid hclock).mp hvalid
    obtain ⟨-, hend, -⟩ := Token.issue_eq_ok_iff.mp haccess
    obtain ⟨tokens', db'', hexchanged⟩ := hgood.exchanged
    have hcurrent := current_of_exchanged hstores hunused hexchanged
    exact { access := hlow
            dated := hdated
            clock := of_decide_eq_true (Bool.and_eq_true_iff.mp hend).2
            refresh := (Lifetime.current_iff hexpiry).mp hcurrent
            date := ⟨expiresAt, hexpiry⟩ }

/-- Under usable lifetimes a login works. -/
theorem works_of_isUsable (h : config.IsUsable now) (hnow : 0 ≤ now.seconds)
    (hdevice : isStorableText request.fingerprint = true)
    (hfresh : ∀ r ∈ db.tables.sessions, r.tokenHash ≠ refreshDigest (Uuid.text (random'.drop 16))) :
    Works config random random' request now db u := by
  have hlasts := h.lasts hnow
  obtain ⟨accessToken, given, session, db', haccess, hprepare, hissue, hstores⟩ :=
    issue_succeeds hkept hlasts hdevice hunused hcorrect.mem
  obtain ⟨accessToken', expiresAt, -, hexpiry, htokens, rfl⟩ := prepare_eq_ok hprepare
  have hlogin := exec_login_of_isCorrect hcorrect hname hnames config random now
  have hvalid := (Token.validates_iff haccess hid hclock).mpr ⟨⟨h.access, h.dated⟩, rfl⟩
  have hexchanged := exchanged_of_current hstores rfl rfl hdevice hunused hfresh hcorrect.mem hcorrect.live
    rfl hlasts ((Lifetime.current_iff hexpiry).mpr h.refresh)
  have hspan : now.seconds + config.accessMins * 60 - now.seconds = config.accessMins * 60 := by omega
  exact ⟨_, db', hlogin.trans hissue, rfl,
    { seconds := rfl
      believed := ⟨_, hvalid, hspan, rfl, rfl⟩
      exchanged := hexchanged }⟩

end

/-- **The service starts with any two lifetimes of 64 bits, and exactly under the usable ones do logins
work**, whatever has happened before. Under lifetimes that have no ends, logins break off. -/
theorem starts_and_works_iff {config : TokenConfig} {random random' : Bytes} {request : LoginRequest}
    {now : Instant} {u : User} {events : List Event} (hcorrect : request.IsCorrect (after events) u)
    (hname : isStorableText request.username = true) (hdevice : isStorableText request.fingerprint = true)
    (hid : Json.Width.w64.fits u.entry.id = true) (hnow : 0 ≤ now.seconds)
    (hclock : Lifetime.fitsClock now.seconds = true)
    (hunused : ∀ r ∈ (after events).tables.sessions,
      r.tokenHash ≠ refreshDigest (Uuid.text (random.drop 16)))
    (hfresh : ∀ r ∈ (after events).tables.sessions,
      r.tokenHash ≠ refreshDigest (Uuid.text (random'.drop 16))) :
    (∀ secret mins days, secret ≠ "" → Bounds.i64.Holds mins → Bounds.i64.Holds days →
      ∃ started, Config.read (Config.tokenVariables secret mins days) = .ok started ∧
        started.token = ⟨secret, mins, days⟩) ∧
    ((∃ fault, (login config random request : Op Database _).exec now (after events) =
      (.ok (.error (.lifetime fault)), after events)) ↔ ¬HaveEnds config now) ∧
    (Works config random random' request now (after events) u ↔ config.IsUsable now) := by
  have hkept := isKept_after events
  have hnames := (isSound_after events).isUnique.usernames
  refine ⟨fun _ _ _ hsecret hmins hdays => Config.read_lifetimes hsecret hmins hdays, ?_, fun h => ?_,
    fun h => ?_⟩
  · rw [exec_login_of_isCorrect hcorrect hname hnames config random now]
    exact issue_breaks_iff config random u request.fingerprint now (after events)
  · exact h.isUsable hkept hnames hcorrect hname hid hclock hunused
  · exact works_of_isUsable hkept hnames hcorrect hname hid hclock hunused h hnow hdevice hfresh

/-! ## Lifetimes under which Anna cannot log in -/

/-- She can log in for fifteen minutes and thirty days. A refresh token that is to last no days has run out
when she gets it, and the service breaks off if the minutes have no number of seconds. -/
theorem works_anna :
    let events := [Event.request (.blockingAt 3) (annaRegisters "")]
    let random := annaLogsIn.random
    ∃ u, annasLogin.IsCorrect (after events) u ∧
      Works ⟨"secret", 15, 30⟩ random random annasLogin ⟨60, 0⟩ (after events) u ∧
      ¬Works ⟨"secret", 15, 0⟩ random random annasLogin ⟨60, 0⟩ (after events) u ∧
      ∃ fault, (login ⟨"secret", 2 ^ 63 - 1, 30⟩ random annasLogin : Op Database _).exec ⟨60, 0⟩
        (after events) = (.ok (.error (.lifetime fault)), after events) := by
  intro events random
  have hafter : serveAll (.blockingAt 3) {} [annaRegisters ""] = after events :=
    serveAll_eq_after (.blockingAt 3) [annaRegisters ""]
  obtain ⟨u, hfits, hid⟩ := exists_fits_anna (.blockingAt 3)
  have hcorrect : annasLogin.IsCorrect (after events) u :=
    hafter ▸ hfits.isCorrect random_annaRegisters (tellsPasswords_anna (.blockingAt 3))
  have hunused : ∀ r ∈ (after events).tables.sessions,
      r.tokenHash ≠ refreshDigest (Uuid.text (random.drop 16)) := by
    rw [← hafter, sessions_annaRegisters]
    exact nofun
  have hid' : Json.Width.w64.fits u.entry.id = true := by
    rw [hid]
    decide
  have hlogins (mins days : Int) : _ ∧ _ ∧
      (Works ⟨"secret", mins, days⟩ random random annasLogin ⟨60, 0⟩ (after events) u ↔
        TokenConfig.IsUsable ⟨"secret", mins, days⟩ ⟨60, 0⟩) :=
    starts_and_works_iff hcorrect (by decide) (by decide) hid'
      (show (0 : Int) ≤ (Instant.mk 60 0).seconds by decide) (by decide) hunused hunused
  refine ⟨u, hcorrect, (hlogins 15 30).2.2.mpr ?_, fun h => ?_,
    (hlogins (2 ^ 63 - 1) 30).2.1.mpr fun h => ?_⟩
  · exact { access := by decide
            dated := by decide
            clock := by decide
            refresh := by decide
            date := ⟨_, rfl⟩ }
  · exact absurd ((hlogins 15 0).2.2.mp h).refresh (by decide)
  · exact absurd h.minutes (by decide)

end Logins

end Fostering
