import Fostering.Proofs.Passwords
import Fostering.Proofs.Sessions.Registrations

/-!
# Who may log in

A login succeeds for the live user who goes by the name now and who registered with the password, whatever
has happened in between. All other logins get one answer, and nothing is written.

Two things are taken for granted of the bytes of a service: of the passwords in question, none but the one
that was hashed fits a digest (`TellsPasswords`), and the fresh refresh token is not in use. The lifetimes
of tokens have to have ends (`Logins.Lasts`).

* `Database.isKept_after`: sessions are in order, whatever happens.
* `logs_in_iff`: who may log in.
-/

namespace Fostering

open Database

/-! ## Sessions -/

namespace Database

variable {now : Instant} {t t' : Tables} {db : Database}

/-- No call but one adds or changes sessions. -/
theorem sessions_subset_of_effect {call : Store.Call} (h : Effect now t call t')
    (hcall : ∀ given, call ≠ .upsertSession given) : t'.sessions ⊆ t.sessions := by
  have hframe (hname : TableName.sessions ∉ call.writes) : t'.sessions ⊆ t.sessions := by
    have hsame : t'.sessions = t.sessions := h.agrees hname
    rw [hsame]
    exact List.Subset.refl _
  cases h with
  | replaceSession given | addSession given => exact absurd rfl (hcall given)
  | takeSession | deleteSession => exact List.filter_subset_self _
  | user call | keeper call | seeker call | vet call | post call | message call =>
      exact hframe fun hname => absurd (call.writes_subset _ hname) (by decide)
  | _ => exact List.Subset.refl _

/-- The names of devices have stored forms. -/
theorem keptByCalls_devices :
    KeptByCalls fun db => ∀ r ∈ db.tables.sessions, isStorableText r.fingerprint = true := by
  intro call now db h r hr
  by_cases hcall : ∀ given, call ≠ .upsertSession given
  · exact h r (sessions_subset_of_effect (effect_perform now db call) hcall hr)
  push Not at hcall
  obtain ⟨given, rfl⟩ := hcall
  have hr' : r ∈ ((upsertSession given).exec now db).2.tables.sessions := hr
  have hplaced (hstorable : Schema.isStorable given = true) (id : Int) :
      isStorableText (placed given id now).fingerprint = true := by
    have hprint := isStorableText_of_isStorable hstorable
    exact hprint
  rcases upsertSession_cases given now db with
    hrefused | ⟨old, -, -, hstorable, -, heq⟩ | ⟨-, hstorable, -, heq⟩
  · rw [hrefused.tables_eq] at hr'
    exact h r hr'
  · rw [heq] at hr'
    obtain ⟨s, hs, rfl⟩ := List.mem_map.mp hr'
    split_ifs
    · exact hplaced hstorable old.id
    · exact h s hs
  · rw [heq] at hr'
    rcases List.mem_append.mp hr' with hr' | hr'
    · exact h r hr'
    · rw [List.mem_singleton.mp hr']
      exact hplaced hstorable _

/-- **Sessions are in order, whatever happens.** -/
theorem isKept_after (events : List Event) : (after events).IsKept where
  given r hr := ids_le_lastId events .sessions r.id (List.mem_map_of_mem hr)
  distinct _ hr _ hs hid := List.inj_on_of_nodup_map ((isSound_after events).nodup_ids .sessions) hr hs hid
  single _ hr _ hs huser hprint :=
    List.inj_on_of_nodup_map (isSound_after events).isUnique.devices hr hs (Prod.ext huser hprint)
  storable := after_of_calls keptByCalls_devices nofun events

end Database

/-! ## Logins -/

/-- Whoever asks knows the name and the password of a live user. -/
structure LoginRequest.IsCorrect (request : LoginRequest) (db : Database) (u : User) : Prop where
  mem : u ∈ db.tables.users
  live : u.entry.isLive = true
  name : u.username = request.username
  password : Password.verify request.password u.passwordHash = .ok true

namespace Logins

variable {user : User} {db : Database} {request : LoginRequest}

/-- Whoever knows the name and the password of a live user is given tokens, if they are given at all. -/
theorem exec_login_of_isCorrect (h : request.IsCorrect db user) (hname : isStorableText request.username = true)
    (hunique : (db.tables.users.map User.username).Nodup) (config : TokenConfig) (random : Bytes)
    (now : Instant) : (login config random request : Op Database _).exec now db =
      (issue config random user request.fingerprint).exec now db := by
  have hfound : db.tables.users.find? (goesBy request.username) = some user := by
    rcases hfound : db.tables.users.find? (goesBy request.username) with _ | other
    · exact absurd (goesBy_iff.mpr ⟨h.name, h.live⟩) (List.find?_eq_none.mp hfound user h.mem)
    · have hname' := (goesBy_iff.mp (List.find?_some hfound)).1.trans h.name.symm
      rw [List.inj_on_of_nodup_map hunique (List.mem_of_find?_eq_some hfound) h.mem hname']
  unfold login
  rw [Op.exec_bind_ok (exec_findByUsername hname now db), hfound,
    Op.exec_bind_ok (Op.exec_orRefuse_some badCredentials user now db), h.password]
  rfl

/-- Everybody else is told the same, and nothing is written. -/
theorem exec_login_of_none (hname : isStorableText request.username = true)
    (hnone : ∀ u ∈ db.tables.users, goesBy request.username u = true →
      Password.verify request.password u.passwordHash = .ok false) (config : TokenConfig) (random : Bytes)
    (now : Instant) :
    (login config random request : Op Database _).exec now db = (.error badCredentials, db) := by
  unfold login
  rw [Op.exec_bind_ok (exec_findByUsername hname now db)]
  rcases hfound : db.tables.users.find? (goesBy request.username) with _ | u
  · rfl
  · have hverify := hnone u (List.mem_of_find?_eq_some hfound) (List.find?_some hfound)
    rw [Op.exec_bind_ok (Op.exec_orRefuse_some badCredentials u now db), hverify]
    rfl

end Logins

/-! ## Runs -/

section

variable {config : Config} {run : List Arrival} {password : String}

/-- Of the passwords with which users asked to register, none but the same one is accepted. -/
def TellsPasswords (config : Config) (run : List Arrival) (password : String) : Prop :=
  ∀ a ∈ run, ∀ request, a.AsksToRegister config request →
    Password.verify password (Password.hash (a.random.take Password.saltLength) request.password) =
      .ok true → password = request.password

/-- A password is accepted if and only if it is the one with which the user registered. -/
theorem exists_verdict (hrandom : ∀ a ∈ run, Password.saltLength ≤ a.random.length)
    (htells : TellsPasswords config run password) {u : User}
    (hu : u ∈ (serveAll config {} run).tables.users) :
    ∃ verdict, Password.verify password u.passwordHash = .ok verdict ∧
      (verdict = true ↔ RegisteredWith config run u.entry.id password) := by
  obtain ⟨before, a, later, request, hrun, hregisters, hhash⟩ := exists_registration config run u hu
  have ha : a ∈ run := hrun ▸ List.mem_append_right _ List.mem_cons_self
  have hsalt : (a.random.take Password.saltLength).length = Password.saltLength :=
    List.length_take_of_le (hrandom a ha)
  have hverify := Password.verify_hash hsalt password request.password
  rw [hhash]
  refine ⟨_, hverify, ⟨fun hsame => ?_, ?_⟩⟩
  · rw [hsame] at hverify
    have hpassword := htells a ha request hregisters.asks hverify
    exact ⟨before, a, later, request, hrun, hregisters, hpassword.symm⟩
  · rintro ⟨before', a', later', request', hrun', hregisters', rfl⟩
    obtain ⟨-, rfl⟩ := registration_unique hrun hregisters hrun' hregisters'
    exact beq_self_eq_true _

end

/-- A live user goes by the name and registered with the password that a login gives. -/
structure LoginRequest.Fits (request : LoginRequest) (config : Config) (run : List Arrival) (u : User) :
    Prop where
  mem : u ∈ (serveAll config {} run).tables.users
  live : u.entry.isLive = true
  name : u.username = request.username
  password : RegisteredWith config run u.entry.id request.password

/-- A login is that of one user at most. -/
theorem LoginRequest.Fits.unique {request : LoginRequest} {config : Config} {run : List Arrival} {u v : User}
    (hu : request.Fits config run u) (hv : request.Fits config run v) : u = v :=
  List.inj_on_of_nodup_map (sound_serveAll config run).isUnique.usernames hu.mem hv.mem
    (hu.name.trans hv.name.symm)

/-- Whoever registered with a password knows it. -/
theorem LoginRequest.Fits.isCorrect {request : LoginRequest} {config : Config} {run : List Arrival} {u : User}
    (h : request.Fits config run u) (hrandom : ∀ a ∈ run, Password.saltLength ≤ a.random.length)
    (htells : TellsPasswords config run request.password) :
    request.IsCorrect (serveAll config {} run) u := by
  obtain ⟨verdict, hverify, hfits⟩ := exists_verdict hrandom htells h.mem
  rw [hfits.mpr h.password] at hverify
  exact ⟨h.mem, h.live, h.name, hverify⟩

section

variable {config : Config} {run : List Arrival} {b : Arrival} {id? : Option (String × String)}
  {request : LoginRequest}

/-- What is planned for a request to log in. -/
theorem Exchange.plan_login {x : Exchange} (hbody : x.body LoginRequest = .ok request) :
    (x.plan .login : Except Reply (Action Database)) =
      .ok (.showsTokens (Logins.login x.config.token x.random request)) := by
  change (x.body LoginRequest >>= _) = _
  rw [hbody]
  rfl

variable (hrandom : ∀ a ∈ run, Password.saltLength ≤ a.random.length)
  (hfind : Endpoint.find b.incoming = .endpoint .login id?)
  (hbody : (b.exchange config id?).body LoginRequest = .ok request)
  (hname : isStorableText request.username = true)
  (htells : TellsPasswords config run request.password)
include hrandom hfind hbody hname htells

/-- Whoever fits is given tokens. -/
theorem LoginRequest.Fits.reply_eq {u : User} (h : request.Fits config run u)
    (hdevice : isStorableText request.fingerprint = true) (hlasts : Logins.Lasts config.token b.now)
    (hunused : ∀ r ∈ (serveAll config {} run).tables.sessions,
      r.tokenHash ≠ refreshDigest (Uuid.text (b.random.drop 16))) :
    ∃ accessToken, Token.issue config.token b.now b.random u.entry.id u.isModerator = .ok accessToken ∧
      (serveAll config {} run).reply config b = b.sends config (.success 200 (AuthTokens.view
        ⟨accessToken, Uuid.text (b.random.drop 16), config.token.accessMins * 60, u⟩)) := by
  let db : Database := serveAll config {} run
  have hkept : db.IsKept := by
    unfold db
    rw [serveAll_eq_after]
    exact isKept_after _
  have hunique : (db.tables.users.map User.username).Nodup := (sound_serveAll config run).isUnique.usernames
  obtain ⟨accessToken, given, session, db', haccess, -, hissue, -⟩ :=
    Logins.issue_succeeds hkept hlasts hdevice hunused h.mem
  have hlogin := Logins.exec_login_of_isCorrect (h.isCorrect hrandom htells) hname hunique config.token
    b.random b.now
  let tokens : AuthTokens := ⟨accessToken, Uuid.text (b.random.drop 16), config.token.accessMins * 60, u⟩
  have hexec : (Action.showsTokens (Logins.login config.token b.random request)).exec b.now db =
      (.ok (.ok (.success 200 tokens.view)), db') := Op.exec_bind_ok (hlogin.trans hissue)
  exact ⟨accessToken, haccess, (reply_of_exec hfind (Exchange.plan_login hbody) hexec).1⟩

/-- Everybody else is told the same. -/
theorem reply_of_not_fits (hnone : ∀ u, ¬request.Fits config run u) :
    (serveAll config {} run).reply config b = b.told config Logins.badCredentials ∧
      (serveAll config {} run).serve config b = serveAll config {} run := by
  refine reply_of_refused hfind (Exchange.plan_login hbody) (Op.exec_bind_error ?_)
  refine Logins.exec_login_of_none hname (fun u hu hgoes => ?_) config.token b.random b.now
  obtain ⟨hsame, hlive⟩ := Logins.goesBy_iff.mp hgoes
  obtain ⟨verdict, hverify, hfits⟩ := exists_verdict hrandom htells hu
  cases verdict with
  | false => exact hverify
  | true => exact absurd ⟨hu, hlive, hsame, hfits.mp rfl⟩ (hnone u)

/-- **A login succeeds if and only if a live user goes by the name now and registered with the password,
whatever has happened in between.** The tokens are for that user. All other logins get the same answer, and
nothing is written. -/
theorem logs_in_iff (hdevice : isStorableText request.fingerprint = true)
    (hlasts : Logins.Lasts config.token b.now)
    (hunused : ∀ r ∈ (serveAll config {} run).tables.sessions,
      r.tokenHash ≠ refreshDigest (Uuid.text (b.random.drop 16))) :
    (((serveAll config {} run).reply config b).status = 200 ↔ ∃! u, request.Fits config run u) ∧
    (∀ u, request.Fits config run u → ∃ accessToken,
      Token.issue config.token b.now b.random u.entry.id u.isModerator = .ok accessToken ∧
      (serveAll config {} run).reply config b = b.sends config (.success 200 (AuthTokens.view
        ⟨accessToken, Uuid.text (b.random.drop 16), config.token.accessMins * 60, u⟩))) ∧
    ((∀ u, ¬request.Fits config run u) →
      (serveAll config {} run).reply config b = b.told config (.unauthorized "Invalid username or password") ∧
      ((serveAll config {} run).reply config b).status = 401 ∧
      (serveAll config {} run).serve config b = serveAll config {} run) := by
  have hfits (u : User) (h : request.Fits config run u) :=
    h.reply_eq hrandom hfind hbody hname htells hdevice hlasts hunused
  have hothers (hnone : ∀ u, ¬request.Fits config run u) :=
    reply_of_not_fits hrandom hfind hbody hname htells hnone
  refine ⟨⟨fun hstatus => ?_, fun ⟨u, hu, _⟩ => ?_⟩, hfits, fun hnone => ?_⟩
  · by_contra hnone
    have hnone' (u : User) : ¬request.Fits config run u := fun hu => hnone ⟨u, hu, fun _ h => h.unique hu⟩
    rw [(hothers hnone').1, Arrival.status_told] at hstatus
    cases hstatus
  · obtain ⟨accessToken, -, hreply⟩ := hfits u hu
    rw [hreply, Arrival.status_sends]
    rfl
  · obtain ⟨hreply, hserve⟩ := hothers hnone
    refine ⟨hreply, ?_, hserve⟩
    rw [hreply, Arrival.status_told]
    rfl

end

/-! ## Anna comes back -/

/-- Anna logs in on her telephone. -/
def annaLogsIn : Arrival := .bearing "" "POST" "/api/v1/auth/login"
  "\x7b\"username\":\"anna\",\"password\":\"correct horse\",\"fingerprint\":\"telephone\"\x7d"

/-- What she gives. -/
def annasLogin : LoginRequest := ⟨"anna", "correct horse", "telephone"⟩

section

variable (config : Config)

/-- Anna's registration comes with enough fresh bytes for a salt. -/
theorem random_annaRegisters : ∀ a ∈ [annaRegisters ""], Password.saltLength ≤ a.random.length :=
  List.forall_mem_singleton.mpr (show Password.saltLength ≤ (List.replicate 16 (1 : UInt8)).length by decide)

/-- Anna's password is told from others. -/
theorem tellsPasswords_anna : TellsPasswords config [annaRegisters ""] "correct horse" := by
  intro a ha request ⟨id?, hasks, hrequest⟩ _
  obtain rfl := List.mem_singleton.mp ha
  obtain rfl := (Arrival.AsksToRegister.unique ⟨id?, hasks, hrequest⟩
    ⟨none, find_annaRegisters "", body_annaRegisters config ""⟩ : request = annasRequest)
  rfl

/-- Anna is the only user after her registration. -/
theorem serveAll_annaRegisters : ∃ hash, serveAll config {} [annaRegisters ""] = withAnna hash [] 0 := by
  obtain ⟨hash, hregisters⟩ := serve_annaRegisters config ""
  refine ⟨hash, ?_⟩
  rw [serveAll_cons, hregisters, serveAll_nil]

/-- Anna has registered with her password. -/
theorem registeredWith_anna : RegisteredWith config [annaRegisters ""] 1 "correct horse" := by
  obtain ⟨hash, hregisters⟩ := serve_annaRegisters config ""
  refine ⟨[], annaRegisters "", [], annasRequest, rfl,
    { asks := ⟨none, find_annaRegisters "", body_annaRegisters config ""⟩, new := nofun, made := ?_ }, rfl⟩
  rw [serveAll_nil, hregisters]
  exact List.mem_cons_self

/-- She is the one who may log in with what she gives. -/
theorem exists_fits_anna : ∃ u, annasLogin.Fits config [annaRegisters ""] u ∧ u.entry.id = 1 := by
  obtain ⟨hash, hrun⟩ := serveAll_annaRegisters config
  let anna : User :=
    { entry := annasEntry, username := "anna", email := "anna@example.org", passwordHash := hash }
  have hmem : anna ∈ (serveAll config {} [annaRegisters ""]).tables.users := by
    rw [hrun]
    exact List.mem_cons_self
  exact ⟨anna, ⟨hmem, rfl, rfl, registeredWith_anna config⟩, rfl⟩

/-- Nobody has logged in yet. -/
theorem sessions_annaRegisters : (serveAll config {} [annaRegisters ""]).tables.sessions = [] := by
  obtain ⟨hash, hrun⟩ := serveAll_annaRegisters config
  rw [hrun]
  rfl

end

/-- She is let in with the password with which she registered. -/
theorem logs_in_anna :
    let config : Config := .blockingAt 3
    let run := [annaRegisters ""]
    (∀ a ∈ run, Password.saltLength ≤ a.random.length) ∧
    Endpoint.find annaLogsIn.incoming = .endpoint .login none ∧
    (annaLogsIn.exchange config none).body LoginRequest = .ok annasLogin ∧
    TellsPasswords config run annasLogin.password ∧
    Logins.Lasts config.token annaLogsIn.now ∧
    ((serveAll config {} run).reply config annaLogsIn).status = 200 := by
  intro config run
  have hfind : Endpoint.find annaLogsIn.incoming = .endpoint .login none :=
    show Endpoint.findIn "POST" (Path.segments "/api/v1/auth/login") Endpoint.routes = _ by decide
  have hreceive : receive LoginRequest (Utf8.encode
      "\x7b\"username\":\"anna\",\"password\":\"correct horse\",\"fingerprint\":\"telephone\"\x7d") =
        .ok annasLogin := by decide +kernel
  have hbody : (annaLogsIn.exchange config none).body LoginRequest = .ok annasLogin :=
    Exchange.body_of_receive hreceive
  have hlasts : Logins.Lasts config.token annaLogsIn.now :=
    Logins.lasts_of_dated (show (0 : Int) ≤ 60 by decide) (show (60 : Int) < 3000000000000 by decide)
      (by decide) (by decide)
  have hunused : ∀ r ∈ (serveAll config {} run).tables.sessions,
      r.tokenHash ≠ refreshDigest (Uuid.text (annaLogsIn.random.drop 16)) := by
    rw [sessions_annaRegisters]
    exact nofun
  obtain ⟨hiff, -⟩ := logs_in_iff random_annaRegisters hfind hbody (by decide) (tellsPasswords_anna config)
    (by decide) hlasts hunused
  obtain ⟨u, hfits, -⟩ := exists_fits_anna config
  exact ⟨random_annaRegisters, hfind, hbody, tellsPasswords_anna config, hlasts,
    hiff.mpr ⟨u, hfits, fun v hv => hv.unique hfits⟩⟩

end Fostering
