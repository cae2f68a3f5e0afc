import Fostering.Proofs.Requests.Service
import Fostering.Proofs.Sessions.Devices

/-!
# Sessions and devices

Each row of sessions is the token of a device, as a digest, and each token has its row
(`Devices.AreKept`). What a visit does to the rows is what the machine does to the devices. Then who
gets tokens for a refresh token can be told from the devices: a live user for whom the token is held,
on the device that asks, before it runs out (`World.Grants`).

* `World.areKept_step`: a visit keeps rows and devices together.
* `World.answer?_of_grants`, `World.turnsAway_of_not_grants`: who gets tokens for a token, and who
  does not.
-/

namespace Fostering

namespace Ticket

/-- A token as a row keeps it: as a digest. -/
def IsKeptAs (t : Ticket) (r : Session) : Prop :=
  r.tokenHash = refreshDigest t.token ∧ r.expiresAt = t.expiresAt

end Ticket

namespace Devices

/-- The rows of sessions are the tokens of the devices: each is kept as one row. -/
structure AreKept (d : Devices) (db : Database) : Prop where
  kept : db.IsKept
  of_row : ∀ r ∈ db.tables.sessions, ∃ t, d (r.userId, r.fingerprint) = some t ∧ t.IsKeptAs r
  of_ticket : ∀ userId fingerprint t, d (userId, fingerprint) = some t →
    ∃ r ∈ db.tables.sessions, r.userId = userId ∧ r.fingerprint = fingerprint ∧ t.IsKeptAs r

variable {d : Devices} {db db' : Database}

/-- Devices are kept as long as sessions and users are. -/
theorem AreKept.of_keepsSessions (h : d.AreKept db) (hsame : Database.KeepsSessions db db') :
    d.AreKept db' where
  kept := h.kept.of_keepsSessions hsame
  of_row := by
    rw [hsame.1]
    exact h.of_row
  of_ticket := by
    rw [hsame.1]
    exact h.of_ticket

/-- A session is stored, and the token is given for the device. -/
theorem AreKept.put (h : d.AreKept db) {given session : Session} {t : Ticket}
    (hstores : Database.Stores given session db db') (ht : t.IsKeptAs session) :
    (d.put (given.userId, given.fingerprint) t).AreKept db' where
  kept := hstores.kept
  of_row r hr := by
    rcases (hstores.mem_iff r).mp hr with rfl | ⟨hr, hother⟩
    · refine ⟨t, mem_put.mpr (.inl ⟨?_, rfl⟩), ht⟩
      rw [hstores.user, hstores.device]
    · obtain ⟨t', ht', hkept⟩ := h.of_row r hr
      refine ⟨t', mem_put.mpr (.inr ⟨fun hkey => ?_, ht'⟩), hkept⟩
      have hsame := Database.isFor_iff.mpr (Prod.mk.inj hkey)
      rw [hother] at hsame
      cases hsame
  of_ticket userId fingerprint t' ht' := by
    rcases mem_put.mp ht' with ⟨hkey, rfl⟩ | ⟨hkey, ht'⟩
    · obtain ⟨rfl, rfl⟩ := Prod.mk.inj hkey
      exact ⟨session, (hstores.mem_iff session).mpr (.inl rfl), hstores.user, hstores.device, ht⟩
    · obtain ⟨r, hr, rfl, rfl, hkept⟩ := h.of_ticket userId fingerprint t' ht'
      refine ⟨r, (hstores.mem_iff r).mpr (.inr ⟨hr, eq_false_of_ne_true fun hsame => ?_⟩), rfl, rfl, hkept⟩
      have hboth := Database.isFor_iff.mp hsame
      exact hkey (Prod.ext hboth.1 hboth.2)

/-- The sessions of a device are erased, and the device is cleared. -/
theorem AreKept.clear (h : d.AreKept db) (userId : Int) (fingerprint : String) :
    (d.clear (userId, fingerprint)).AreKept
      (db.withoutSessions fun s => s.userId = userId && s.fingerprint = fingerprint) where
  kept := h.kept.withoutSessions _
  of_row r hr := by
    obtain ⟨hr, hother⟩ := Database.mem_withoutSessions.mp hr
    obtain ⟨t, ht, hkept⟩ := h.of_row r hr
    refine ⟨t, mem_clear.mpr ⟨fun hkey => ?_, ht⟩, hkept⟩
    obtain ⟨rfl, rfl⟩ := Prod.mk.inj hkey
    simp at hother
  of_ticket userId' fingerprint' t ht := by
    obtain ⟨hkey, ht⟩ := mem_clear.mp ht
    obtain ⟨r, hr, rfl, rfl, hkept⟩ := h.of_ticket userId' fingerprint' t ht
    refine ⟨r, Database.mem_withoutSessions.mpr ⟨hr, ?_⟩, rfl, rfl, hkept⟩
    refine eq_false_of_ne_true fun hsame => hkey ?_
    simp only [Bool.and_eq_true, decide_eq_true_eq] at hsame
    exact Prod.ext hsame.1 hsame.2

/-- Nothing is kept for a device whose name has no stored form. -/
theorem AreKept.clear_of_unstorable (h : d.AreKept db) (userId : Int) {fingerprint : String}
    (hnone : isStorableText fingerprint = false) : d.clear (userId, fingerprint) = d := by
  refine Function.update_eq_self_iff.mpr (Option.eq_none_iff_forall_ne_some.mpr fun t ht => ?_).symm
  obtain ⟨r, hr, -, rfl, -⟩ := h.of_ticket userId fingerprint t ht
  rw [h.kept.storable r hr] at hnone
  cases hnone

/-- Digests tell a token that is presented from the tokens that are held. -/
def Tells (d : Devices) (token : String) : Prop :=
  ∀ key t, d key = some t → refreshDigest t.token = refreshDigest token → t.token = token

/-- A row is the session that a token is exchanged for if the token is that of its device, and has
not run out. -/
theorem presents_iff {request : RefreshRequest} (htells : d.Tells request.refreshToken)
    {key : Int × String} {t : Ticket} (ht : d key = some t) {r : Session} (hkept : t.IsKeptAs r)
    (now : Instant) :
    Logins.Presents request now r = true ↔ t.token = request.refreshToken ∧ t.isCurrent now = true := by
  unfold Logins.Presents Database.isCurrent Ticket.isCurrent
  rw [hkept.1, hkept.2, Bool.and_eq_true, decide_eq_true_eq]
  refine and_congr_left' ⟨htells key t ht, fun h => ?_⟩
  rw [h]

/-- The session of a token that is presented is taken away, and the token is gone. -/
theorem AreKept.revoke (h : d.AreKept db) {request : RefreshRequest}
    (htells : d.Tells request.refreshToken) (now : Instant) :
    (d.revoke request.refreshToken now).AreKept (Logins.taken db request now) where
  kept := h.kept.withoutSessions _
  of_row r hr := by
    obtain ⟨hr, hother⟩ := Database.mem_withoutSessions.mp hr
    obtain ⟨t, ht, hkept⟩ := h.of_row r hr
    refine ⟨t, mem_revoke.mpr ⟨ht, fun hpresented => ?_⟩, hkept⟩
    rw [(presents_iff htells ht hkept now).mpr hpresented] at hother
    cases hother
  of_ticket userId fingerprint t ht := by
    obtain ⟨ht, hother⟩ := mem_revoke.mp ht
    obtain ⟨r, hr, huser, hdevice, hkept⟩ := h.of_ticket userId fingerprint t ht
    refine ⟨r, Database.mem_withoutSessions.mpr ⟨hr, ?_⟩, huser, hdevice, hkept⟩
    exact eq_false_of_ne_true fun hpresented => hother ((presents_iff htells ht hkept now).mp hpresented)

/-- Tokens are given out for a device and their session is stored, or neither. -/
theorem AreKept.issue (h : d.AreKept db) (config : TokenConfig) (random : Bytes) (user : User)
    (fingerprint : String) (now : Instant) :
    (d.give config now fingerprint
        (Logins.Answer.tokens? ((Logins.issue config random user fingerprint).exec now db).1)).AreKept
      ((Logins.issue config random user fingerprint).exec now db).2 := by
  rcases Logins.issue_stores config random user fingerprint now h.kept with
    ⟨answer, db', heq, hnone, hkeeps⟩ | ⟨tokens, given, session, db', hprepare, heq, hstores⟩
  · rw [heq]
    change (d.give config now fingerprint answer.tokens?).AreKept db'
    rw [hnone]
    exact h.of_keepsSessions hkeeps
  · obtain ⟨accessToken, expiresAt, -, hexpiry, rfl, rfl⟩ := Logins.prepare_eq_ok hprepare
    rw [heq]
    refine h.put hstores ⟨hstores.digest, ?_⟩
    rw [hstores.expiry]
    exact congrArg Instant.stored (Logins.eq_of_afterDays hexpiry)

end Devices

/-! ## One visit -/

namespace World

variable {config : TokenConfig} {w : World} {v : Visit}

/-- What a visit does to sessions is what it does to devices. -/
theorem areKept_step (h : w.devices.AreKept w.db)
    (htells : ∀ token ∈ v.presented?, w.devices.Tells token) :
    (w.step config v).devices.AreKept (w.step config v).db := by
  unfold step Visit.after Visit.tokens? Visit.answer? Visit.exec Devices.next
  rcases hask : v.ask with request | request | request | ⟨userId, fingerprint⟩ | ⟨actor, id⟩ | id
  case register =>
    refine h.of_keepsSessions ?_
    change Database.KeepsSessions w.db ((Accounts.register _ request : Op Database User).exec v.now w.db).2
    rw [Accounts.exec_register]
    exact Database.keepsSessions_insertUser _ v.now w.db
  case login =>
    rcases Logins.login_cases config v.random request v.now w.db with
      ⟨answer, heq, hanswer⟩ | ⟨user, -, -, -, -, heq⟩
    · simp only [heq, Prod.map, Option.bind_some, hanswer, id]
      exact h
    · simp only [heq, Prod.map, Option.bind_some, id]
      exact h.issue config v.random user request.fingerprint v.now
  case refresh =>
    have hpresented : v.presented? = some request.refreshToken := by
      unfold Visit.presented?
      rw [hask]
    -- a refresh revokes the token first, whatever comes of it
    have hrevoked := h.revoke (htells _ hpresented) v.now
    rcases Logins.refresh_cases config v.random request v.now w.db with
      ⟨-, heq⟩ | ⟨r, -, -, ⟨-, heq⟩ | ⟨-, -, heq⟩ | ⟨-, user, -, -, -, heq⟩⟩
    case inr.inr.inr =>
      simp only [heq, Prod.map, Option.bind_some, id]
      exact hrevoked.issue config v.random user request.fingerprint v.now
    all_goals
      simp only [heq, Prod.map, Option.bind_some, id]
      exact hrevoked
  case logout =>
    change (w.devices.clear (userId, fingerprint)).AreKept
      ((Logins.logout userId fingerprint : Op Database Unit).exec v.now w.db).2
    rw [Logins.logout_snd]
    rcases Database.exec_deleteSession userId fingerprint v.now w.db with ⟨-, heq⟩ | ⟨hunstorable, heq⟩
    · rw [heq]
      exact h.clear userId fingerprint
    · rw [heq, h.clear_of_unstorable userId hunstorable]
      exact h
  case deleteAccount =>
    refine h.of_keepsSessions ?_
    change Database.KeepsSessions w.db ((Accounts.delete actor id : Op Database Unit).exec v.now w.db).2
    rcases Accounts.delete_cases v.now w.db actor id with hdeclines | ⟨-, heq⟩
    · rw [hdeclines.snd_eq]
      exact Std.Refl.refl w.db
    · rw [heq]
      exact Database.keepsSessions_deleteUser id v.now w.db
  case promote => exact h.of_keepsSessions ⟨rfl, Int.le_refl _⟩

/-! ## Who gets tokens for a token -/

/-- A refresh token is exchanged for tokens of a live user, for the device that it is for, before it
runs out. -/
def Grants (w : World) (now : Instant) (request : RefreshRequest) (user : User) : Prop :=
  user ∈ w.db.tables.users ∧ user.entry.isLive = true ∧
    ∃ t, w.devices (user.entry.id, request.fingerprint) = some t ∧ t.token = request.refreshToken ∧
      t.isCurrent now = true

/-- A visit is turned away as one that nobody vouches for. -/
def TurnsAway (config : TokenConfig) (w : World) (v : Visit) : Prop :=
  ∃ message, v.answer? config w.db = some (.error (.unauthorized message))

/-- Tokens are told apart by themselves: each is for one device. -/
def ToldApart (w : World) : Prop :=
  ∀ key key' t t', w.devices key = some t → w.devices key' = some t' → t.token = t'.token → key = key'

variable {request : RefreshRequest}

/-- An exchange is answered as the service does. -/
theorem answer?_refresh (hask : v.ask = .refresh request) :
    v.answer? config w.db =
      some ((Logins.refresh config v.random request : Op Database _).exec v.now w.db).1 := by
  unfold Visit.answer? Visit.exec
  simp only [hask, Prod.map_fst]

/-- Nobody gets tokens for a token that is not held for a live user and the device. -/
theorem turnsAway_of_not_grants (h : w.devices.AreKept w.db)
    (htells : w.devices.Tells request.refreshToken) (hask : v.ask = .refresh request)
    (hnot : ∀ user, ¬w.Grants v.now request user) : TurnsAway config w v := by
  unfold TurnsAway
  rw [answer?_refresh hask]
  rcases Logins.refresh_cases config v.random request v.now w.db with
    ⟨-, heq⟩ | ⟨r, hr, hpresents, ⟨-, heq⟩ | ⟨-, -, heq⟩ | ⟨hdevice, user, hmem, hid, hlive, -⟩⟩
  case inr.inr.inr =>
    obtain ⟨t, ht, hkept⟩ := h.of_row r hr
    have hcurrent := (Devices.presents_iff htells ht hkept v.now).mp hpresents
    refine absurd ⟨hmem, hlive, t, ?_, hcurrent⟩ (hnot user)
    rw [hid, ← hdevice]
    exact ht
  all_goals
    rw [heq]
    exact ⟨_, rfl⟩

/-- A user gets tokens for a token that is held for the user and the device. -/
theorem answer?_of_grants (h : w.devices.AreKept w.db) (hapart : w.ToldApart)
    (htells : w.devices.Tells request.refreshToken) (hlasts : Logins.Lasts config v.now)
    (hfresh : ∀ key t, w.devices key = some t → refreshDigest t.token ≠ refreshDigest v.drawn)
    (hask : v.ask = .refresh request) {user : User} (hgrants : w.Grants v.now request user) :
    ∃ user', user'.entry.id = user.entry.id ∧ w.Grants v.now request user' ∧ ∃ accessToken,
      Token.issue config v.now v.random user'.entry.id user'.isModerator = .ok accessToken ∧
      v.answer? config w.db =
        some (.ok (.ok ⟨accessToken, v.drawn, config.accessMins * 60, user'⟩)) := by
  obtain ⟨hmem, hlive, t, ht, htoken, hcurrent⟩ := hgrants
  obtain ⟨r, hr, huser, hdevice, hkept⟩ := h.of_ticket _ _ t ht
  have hpresents : Logins.Presents request v.now r = true :=
    (Devices.presents_iff htells ht hkept v.now).mpr ⟨htoken, hcurrent⟩
  -- whatever row the token is exchanged for is the row of the user and the device
  have hsame (r' : Session) (hr' : r' ∈ w.db.tables.sessions)
      (hpresents' : Logins.Presents request v.now r' = true) :
      r'.userId = user.entry.id ∧ r'.fingerprint = request.fingerprint := by
    obtain ⟨t', ht', hkept'⟩ := h.of_row r' hr'
    have htoken' := ((Devices.presents_iff htells ht' hkept' v.now).mp hpresents').1
    exact Prod.mk.inj (hapart _ _ t' t ht' ht (htoken'.trans htoken.symm))
  rw [answer?_refresh hask]
  rcases Logins.refresh_cases config v.random request v.now w.db with
    ⟨hnone, -⟩ | ⟨r', hr', hpresents', hcases⟩
  · rw [hnone r hr] at hpresents
    cases hpresents
  obtain ⟨huser', hdevice'⟩ := hsame r' hr' hpresents'
  rcases hcases with ⟨hother, -⟩ | ⟨-, hgone, -⟩ | ⟨-, user', hmem', hid', hlive', heq⟩
  · exact absurd hdevice' hother
  · rw [hgone user hmem huser'.symm] at hlive
    cases hlive
  have hid : user'.entry.id = user.entry.id := hid'.trans huser'
  have hunused : ∀ s ∈ (Logins.taken w.db request v.now).tables.sessions,
      s.tokenHash ≠ refreshDigest (Uuid.text (v.random.drop 16)) := by
    intro s hs
    obtain ⟨hs, -⟩ := Database.mem_withoutSessions.mp hs
    obtain ⟨t', ht', hkept'⟩ := h.of_row s hs
    rw [hkept'.1]
    exact hfresh _ t' ht'
  have hstorable : isStorableText request.fingerprint = true := by
    rw [← hdevice]
    exact h.kept.storable r hr
  have hleft : (Logins.taken w.db request v.now).IsKept := h.kept.withoutSessions _
  obtain ⟨accessToken, _, _, _, haccess, -, hissue, -⟩ :=
    Logins.issue_succeeds hleft hlasts hstorable hunused hmem'
  refine ⟨user', hid, ⟨hmem', hlive', t, ?_, htoken, hcurrent⟩, accessToken, haccess, ?_⟩
  · rw [hid]
    exact ht
  · rw [heq, hissue]
    rfl

end World

end Fostering
