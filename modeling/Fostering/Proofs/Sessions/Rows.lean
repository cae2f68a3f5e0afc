import Fostering.Proofs.Database.Frames
import Fostering.Service.Sessions

/-!
# The rows of sessions

What the three calls on sessions do to their table. A user has one row at most for each device, and
rows are told apart by their ids, of which the database has given away all that are in use
(`Database.IsKept`). Each call keeps that.

* `exec_takeSession`, `exec_deleteSession`: which rows are erased.
* `upsertSession_cases`: the row for a device is replaced, or it is new.
* `exec_upsertSession`: it is new, and nothing stands against it, if the device has none.
* `upsertSession_succeeds`: when nothing stands against it otherwise.
-/

namespace Fostering

/-- The digest of a refresh token is a text of hexadecimal digits, and has a stored form. -/
theorem isStorableText_refreshDigest (token : String) : isStorableText (refreshDigest token) = true := by
  have hdigit : ∀ n < 16, Bytes.hexDigit n ≠ '\x00' := by decide
  have hnone : '\x00' ∉ (refreshDigest token).toList := by
    intro h
    unfold refreshDigest Bytes.toHex at h
    rw [String.toList_ofList] at h
    obtain ⟨b, -, hb⟩ := List.mem_flatMap.mp h
    have hbyte : b.toNat < 256 := b.toNat_lt
    rcases List.mem_pair.mp hb with heq | heq
    · exact hdigit (b.toNat / 16) (by omega) heq.symm
    · exact hdigit (b.toNat % 16) (by omega) heq.symm
  simpa [isStorableText] using hnone

namespace Database

/-- The rows of sessions are in order. -/
structure IsKept (db : Database) : Prop where
  /-- The database has given every id away. -/
  given : ∀ r ∈ db.tables.sessions, r.id ≤ db.sequences.sessions
  /-- Rows are told apart by their ids. -/
  distinct : ∀ r ∈ db.tables.sessions, ∀ s ∈ db.tables.sessions, r.id = s.id → r = s
  /-- A user has one row at most for a device. -/
  single : ∀ r ∈ db.tables.sessions, ∀ s ∈ db.tables.sessions,
    r.userId = s.userId → r.fingerprint = s.fingerprint → r = s
  /-- The name of a device has a stored form. -/
  storable : ∀ r ∈ db.tables.sessions, isStorableText r.fingerprint = true

variable {now : Instant} {db db' : Database}

/-- Fewer rows are in order, too. -/
theorem IsKept.of_subset (h : db.IsKept) (hrows : db'.tables.sessions ⊆ db.tables.sessions)
    (hids : db.sequences.sessions ≤ db'.sequences.sessions) : db'.IsKept where
  given r hr := Int.le_trans (h.given r (hrows hr)) hids
  distinct r hr s hs := h.distinct r (hrows hr) s (hrows hs)
  single r hr s hs := h.single r (hrows hr) s (hrows hs)
  storable r hr := h.storable r (hrows hr)

/-! ## Leaving sessions alone -/

/-- Sessions are as they were, though ids may have been used up. -/
def KeepsSessions (db db' : Database) : Prop :=
  db'.tables.sessions = db.tables.sessions ∧ db.sequences.sessions ≤ db'.sequences.sessions

instance : IsPreorder Database KeepsSessions where
  refl _ := ⟨rfl, Int.le_refl _⟩
  trans _ _ _ h h' := ⟨h'.1.trans h.1, Int.le_trans h.2 h'.2⟩

/-- Sessions stay kept as long as sessions and users are. -/
theorem IsKept.of_keepsSessions (h : db.IsKept) (hsame : KeepsSessions db db') : db'.IsKept :=
  h.of_subset (fun _ hr => hsame.1 ▸ hr) hsame.2

/-- A call on users leaves sessions alone. -/
theorem keepsSessions_insertUser (row : User) : (insert row).KeepsTo KeepsSessions := by
  have htake : (takeId User).KeepsTo KeepsSessions := fun _ _ => ⟨rfl, Int.le_refl _⟩
  have happend (row : User) : (append row).KeepsTo KeepsSessions := fun _ _ => ⟨rfl, Int.le_refl _⟩
  have hkey (row : User) : (guardKey row).KeepsTo KeepsSessions :=
    Op.keepsTo_bind (keepsTo_looking _) fun _ => Op.keepsTo_guard _ _
  refine Op.keepsTo_bind (Op.keepsTo_guard _ _) fun _ => Op.keepsTo_bind htake fun id => ?_
  refine Op.keepsTo_bind (Op.keepsTo_guard _ _) fun _ => Op.keepsTo_bind (hkey _) fun _ => ?_
  refine Op.keepsTo_bind (keepsTo_guardUnique _) fun _ => ?_
  refine Op.keepsTo_bind (keepsTo_guardReferences _) fun _ => ?_
  exact Op.keepsTo_bind (happend _) fun _ => Op.keepsTo_pure _

/-- To delete a user keeps the sessions. -/
theorem keepsSessions_deleteUser (id : Int) : (delete User id).KeepsTo KeepsSessions := by
  have hreplace (row : User) : (replace row).KeepsTo KeepsSessions := fun _ _ => ⟨rfl, Int.le_refl _⟩
  exact Op.keepsTo_bind (keepsTo_find _) fun _ => Op.keepsTo_bind keepsTo_time fun _ => hreplace _

/-- Storing a session uses ids up and takes none back. -/
def IdsGrow (db db' : Database) : Prop := db.sequences.sessions ≤ db'.sequences.sessions

instance : IsPreorder Database IdsGrow where
  refl _ := Int.le_refl _
  trans _ _ _ := Int.le_trans

/-- To put a session in place takes no id back. -/
theorem idsGrow_upsertSession (given : Session) : (upsertSession given).KeepsTo IdsGrow := by
  have htake : (takeId Session).KeepsTo IdsGrow := fun _ db => Int.le_add_one (Int.le_refl _)
  have hchange (f : Tables → Tables) : (change f).KeepsTo IdsGrow := fun _ _ => Int.le_refl _
  have hkey (row : Session) : (guardKey row).KeepsTo IdsGrow :=
    Op.keepsTo_bind (keepsTo_looking _) fun _ => Op.keepsTo_guard _ _
  refine Op.keepsTo_bind (Op.keepsTo_guard _ _) fun _ => Op.keepsTo_bind htake fun id => ?_
  refine Op.keepsTo_bind keepsTo_time fun time => Op.keepsTo_bind (keepsTo_looking _) fun old? => ?_
  rcases old? with _ | old
  · refine Op.keepsTo_bind (hkey _) fun _ => Op.keepsTo_bind (keepsTo_guardRow _) fun _ => ?_
    refine Op.keepsTo_bind (keepsTo_guardReferences _) fun _ => ?_
    exact Op.keepsTo_bind (hchange _) fun _ => Op.keepsTo_pure _
  · refine Op.keepsTo_bind (keepsTo_guardRow _) fun _ => ?_
    exact Op.keepsTo_bind (hchange _) fun _ => Op.keepsTo_pure _

/-! ## Erasing -/

/-- The database without the sessions that have a property. -/
def withoutSessions (p : Session → Bool) (db : Database) : Database :=
  { db with tables := dropRows p db.tables }

/-- Of the sessions without some, those others are left. -/
theorem mem_withoutSessions {p : Session → Bool} {r : Session} :
    r ∈ (db.withoutSessions p).tables.sessions ↔ r ∈ db.tables.sessions ∧ p r = false := by
  change r ∈ (db.tables.sessions.filter fun r => !p r) ↔ _
  rw [List.mem_filter, Bool.not_eq_true']

/-- Sessions stay kept if some are taken away. -/
theorem IsKept.withoutSessions (h : db.IsKept) (p : Session → Bool) : (db.withoutSessions p).IsKept := by
  refine h.of_subset (fun r hr => ?_) (Int.le_refl _)
  exact (mem_withoutSessions.mp hr).1

/-- A current session with a digest is taken away. -/
theorem exec_takeSession (token : String) (now : Instant) (db : Database) :
    (takeSession (refreshDigest token)).exec now db =
      (.ok (db.tables.sessions.find? (isCurrent (refreshDigest token) now.stored)),
        db.withoutSessions (isCurrent (refreshDigest token) now.stored)) := by
  have hguard : (guardText (refreshDigest token)).exec now db = (.ok (), db) :=
    Op.exec_guard_of_true (isStorableText_refreshDigest token) unstorable now db
  unfold takeSession
  rw [Op.exec_bind_ok hguard, Op.exec_bind_ok (exec_now now db), Op.exec_bind_ok (exec_find? _ now db),
    Op.exec_bind_ok (exec_eraseWhere _ now db)]
  rfl

/-- The session of a user on a device is erased, if the name of the device has a stored form. -/
theorem exec_deleteSession (userId : Int) (fingerprint : String) (now : Instant) (db : Database) :
    (isStorableText fingerprint = true ∧ ((deleteSession userId fingerprint).exec now db).2 =
        db.withoutSessions fun s => s.userId = userId && s.fingerprint = fingerprint) ∨
      (isStorableText fingerprint = false ∧ ((deleteSession userId fingerprint).exec now db).2 = db) := by
  unfold deleteSession
  rcases hstorable : isStorableText fingerprint
  · have hguard : (guardText fingerprint).exec now db = (.error unstorable, db) :=
      Op.exec_guard_of_false hstorable unstorable now db
    refine .inr ⟨rfl, ?_⟩
    rw [Op.exec_bind_error hguard]
  · have hguard : (guardText fingerprint).exec now db = (.ok (), db) :=
      Op.exec_guard_of_true hstorable unstorable now db
    refine .inl ⟨rfl, ?_⟩
    rw [Op.exec_bind_ok hguard, Op.exec_bind_ok (exec_find? _ now db),
      Op.exec_bind_ok (exec_eraseWhere _ now db)]
    rfl

/-! ## Storing -/

/-- A session as it is stored. -/
def placed (given : Session) (id : Int) (now : Instant) : Session :=
  { given with id, expiresAt := given.expiresAt.stored, createdAt := now.stored }

/-- The database with the next id of a session given away. -/
def withNextSessionId (db : Database) : Database :=
  { db with sequences := { db.sequences with sessions := db.sequences.sessions + 1 } }

/-- The session of a user on a device. -/
def isFor (given s : Session) : Bool := s.userId = given.userId && s.fingerprint = given.fingerprint

/-- A session stands in the way of another for the same user and device. -/
theorem isFor_iff {given s : Session} :
    isFor given s = true ↔ s.userId = given.userId ∧ s.fingerprint = given.fingerprint := by
  simp [isFor]

/-- The part of storing a session that comes after it has got an id: it takes the place of the old
one, or it is new. -/
def placeSession (given : Session) : Option Session → Op Database Session
  | some old => do
    let session := { given with id := old.id }
    guardRow session
    replace session
    return session
  | none => do
    guardKey given
    guardRow given
    guardReferences given
    append given
    return given

/-- The part of storing a session that comes after its texts have been looked at. -/
theorem exec_upsertSession_of_storable {given : Session} (h : Schema.isStorable given = true)
    (now : Instant) (db : Database) :
    (upsertSession given).exec now db =
      (placeSession (placed given (db.sequences.sessions + 1) now)
        (db.tables.sessions.find? (isFor given))).exec now db.withNextSessionId := by
  have hguard : (guardStorable given).exec now db = (.ok (), db) :=
    Op.exec_guard_of_true h unstorable now db
  have htake : (takeId Session).exec now db =
      (.ok (db.sequences.sessions + 1), db.withNextSessionId) := exec_takeId now db
  unfold upsertSession
  rw [Op.exec_bind_ok hguard, Op.exec_bind_ok htake, Op.exec_bind_ok (exec_now now _),
    Op.exec_bind_ok (exec_find? _ now _)]
  rfl

/-- What storing a session can come to: it is refused and every table is as it was, or the row for
the device is replaced, or there was none and the row is new. -/
theorem upsertSession_cases (given : Session) (now : Instant) (db : Database) :
    IsRefused (upsertSession given) now db ∨
      (∃ old ∈ db.tables.sessions, isFor given old = true ∧ Schema.isStorable given = true ∧
        IsAdmissible db.tables (placed given old.id now) ∧
        (upsertSession given).exec now db = (.ok (placed given old.id now),
          { db.withNextSessionId with tables := putRow (placed given old.id now) db.tables })) ∨
      ((∀ old ∈ db.tables.sessions, isFor given old = false) ∧ Schema.isStorable given = true ∧
        IsInsertable db.tables (placed given (db.sequences.sessions + 1) now) ∧
        (upsertSession given).exec now db = (.ok (placed given (db.sequences.sessions + 1) now),
          { db.withNextSessionId with
            tables := addRow (placed given (db.sequences.sessions + 1) now) db.tables })) := by
  -- the id has been used up before any of the guards below, so that they all start from there
  rcases hstorable : Schema.isStorable given
  · exact .inl ((isRefused_guard hstorable _).bind _)
  rw [exec_upsertSession_of_storable hstorable]
  have hrefused {op : Op Database Session}
      (heq : (upsertSession given).exec now db = op.exec now db.withNextSessionId)
      (h : IsRefused op now db.withNextSessionId) : IsRefused (upsertSession given) now db := by
    obtain ⟨cause, db', hexec, htables⟩ := h
    exact ⟨cause, db', heq.trans hexec, htables⟩
  have heq := exec_upsertSession_of_storable hstorable now db
  rcases hold : db.tables.sessions.find? (isFor given) with _ | old
  · rw [hold] at heq
    let new : Session := placed given (db.sequences.sessions + 1) now
    by_cases hunused : ∀ r ∈ db.tables.sessions, r.id ≠ db.sequences.sessions + 1
    case neg =>
      have hused : IsRefused (guardKey new) now db.withNextSessionId := guardKey_of_used new hunused
      exact .inl (hrefused heq (hused.bind _))
    have hkey : (guardKey new).exec now db.withNextSessionId = (.ok (), db.withNextSessionId) :=
      guardKey_of_unused new hunused
    rcases guardRow_cases new now db.withNextSessionId with h | hrow
    · exact .inl (hrefused heq (.after hkey rfl (h.bind _)))
    have hguard := guardRow_of_isAdmissible new now hrow
    rcases horphan : Schema.orphan? db.withNextSessionId.tables new with _ | reference
    case some =>
      refine .inl (hrefused heq (.after hkey rfl (.after hguard rfl ?_)))
      exact (guardReferences_of_some new horphan).bind _
    have hreferences : (guardReferences new).exec now db.withNextSessionId =
        (.ok (), db.withNextSessionId) := guardReferences_of_none new horphan
    refine .inr (.inr ⟨fun r hr => ?_, rfl, ⟨hrow, hunused, horphan⟩, ?_⟩)
    · simpa using List.find?_eq_none.mp hold r hr
    · unfold placeSession
      rw [Op.exec_bind_ok hkey, Op.exec_bind_ok hguard, Op.exec_bind_ok hreferences,
        Op.exec_bind_ok (exec_append new now _)]
      rfl
  · rw [hold] at heq
    let session : Session := placed given old.id now
    rcases guardRow_cases session now db.withNextSessionId with h | hrow
    · exact .inl (hrefused heq (h.bind _))
    have hguard := guardRow_of_isAdmissible session now hrow
    refine .inr (.inl ⟨old, List.mem_of_find?_eq_some hold, List.find?_some hold, rfl, hrow, ?_⟩)
    unfold placeSession
    exact (Op.exec_bind_ok hguard).trans (Op.exec_bind_ok (exec_replace session now _))

/-- A session has been stored: it is the one for its device, and all others are as they were. -/
structure Stores (given session : Session) (db db' : Database) : Prop where
  user : session.userId = given.userId
  digest : session.tokenHash = given.tokenHash
  device : session.fingerprint = given.fingerprint
  expiry : session.expiresAt = given.expiresAt.stored
  users : db'.tables.users = db.tables.users
  kept : db'.IsKept
  mem_iff : ∀ r, r ∈ db'.tables.sessions ↔
    r = session ∨ r ∈ db.tables.sessions ∧ isFor given r = false

/-- Rows stay in order if a row under an id of its own takes the place of those for its device. -/
theorem IsKept.of_mem_iff {given session : Session} (hkept : db.IsKept)
    (hsame : session.userId = given.userId ∧ session.fingerprint = given.fingerprint)
    (hstorable : isStorableText given.fingerprint = true)
    (hid : session.id ≤ db'.sequences.sessions)
    (hids : db.sequences.sessions ≤ db'.sequences.sessions)
    (hother : ∀ r ∈ db.tables.sessions, isFor given r = false → r.id ≠ session.id)
    (hmem : ∀ r, r ∈ db'.tables.sessions ↔
      r = session ∨ r ∈ db.tables.sessions ∧ isFor given r = false) : db'.IsKept := by
  have hdevice (r : Session) (hr : isFor given r = false) :
      ¬(r.userId = session.userId ∧ r.fingerprint = session.fingerprint) := by
    rw [hsame.1, hsame.2, ← isFor_iff, hr]
    exact Bool.false_ne_true
  constructor
  · intro r hr
    rcases (hmem r).mp hr with rfl | ⟨hr, -⟩
    · exact hid
    · exact Int.le_trans (hkept.given r hr) hids
  · intro r hr s hs heq
    rcases (hmem r).mp hr with rfl | ⟨hr, hrfor⟩
    · rcases (hmem s).mp hs with rfl | ⟨hs, hsfor⟩
      · rfl
      · exact absurd heq.symm (hother s hs hsfor)
    · rcases (hmem s).mp hs with rfl | ⟨hs, -⟩
      · exact absurd heq (hother r hr hrfor)
      · exact hkept.distinct r hr s hs heq
  · intro r hr s hs huser hprint
    rcases (hmem r).mp hr with rfl | ⟨hr, hrfor⟩
    · rcases (hmem s).mp hs with rfl | ⟨-, hsfor⟩
      · rfl
      · exact absurd ⟨huser.symm, hprint.symm⟩ (hdevice s hsfor)
    · rcases (hmem s).mp hs with rfl | ⟨hs, -⟩
      · exact absurd ⟨huser, hprint⟩ (hdevice r hrfor)
      · exact hkept.single r hr s hs huser hprint
  · intro r hr
    rcases (hmem r).mp hr with rfl | ⟨hr, -⟩
    · rw [hsame.2]
      exact hstorable
    · exact hkept.storable r hr

/-- The name of a device can be stored if its session can. -/
theorem isStorableText_of_isStorable {given : Session} (h : Schema.isStorable given = true) :
    isStorableText given.fingerprint = true := by
  have htexts := (Bool.and_eq_true_iff.mp h).1
  exact List.all_eq_true.mp htexts given.fingerprint (List.mem_cons_of_mem _ List.mem_cons_self)

/-- The row for a device is new. -/
theorem stores_new {given : Session} (hkept : db.IsKept) (hstorable : Schema.isStorable given = true)
    (hfree : ∀ old ∈ db.tables.sessions, isFor given old = false) (now : Instant) :
    Stores given (placed given (db.sequences.sessions + 1) now) db
      { db.withNextSessionId with
        tables := addRow (placed given (db.sequences.sessions + 1) now) db.tables } := by
  let new : Session := placed given (db.sequences.sessions + 1) now
  let db' : Database := { db.withNextSessionId with tables := addRow new db.tables }
  have hmem (r : Session) : r ∈ db'.tables.sessions ↔
      r = new ∨ r ∈ db.tables.sessions ∧ isFor given r = false := by
    change r ∈ db.tables.sessions ++ [new] ↔ _
    rw [List.mem_append, List.mem_singleton, or_comm]
    refine or_congr_right ⟨fun hr => ⟨hr, hfree r hr⟩, And.left⟩
  have hids : db.sequences.sessions ≤ db'.sequences.sessions := Int.le_add_one (Int.le_refl _)
  have hother : ∀ r ∈ db.tables.sessions, isFor given r = false → r.id ≠ new.id := by
    intro r hr _ heq
    have hgiven := hkept.given r hr
    have hnew : new.id = db.sequences.sessions + 1 := rfl
    omega
  have hsame : new.userId = given.userId ∧ new.fingerprint = given.fingerprint := ⟨rfl, rfl⟩
  have hkept' : db'.IsKept := hkept.of_mem_iff hsame (isStorableText_of_isStorable hstorable)
    (Int.le_refl _) hids hother hmem
  exact ⟨rfl, rfl, rfl, rfl, rfl, hkept', hmem⟩

/-- The row for a device is replaced. -/
theorem stores_replaced {given old : Session} (hkept : db.IsKept)
    (hstorable : Schema.isStorable given = true) (hold : old ∈ db.tables.sessions)
    (hfor : isFor given old = true) (now : Instant) :
    Stores given (placed given old.id now) db
      { db.withNextSessionId with tables := putRow (placed given old.id now) db.tables } := by
  let session : Session := placed given old.id now
  let db' : Database := { db.withNextSessionId with tables := putRow session db.tables }
  -- the row of the device is told by its id, which is what the replacement goes by
  have hsame (r : Session) (hr : r ∈ db.tables.sessions) : isFor given r = true ↔ r.id = old.id := by
    constructor
    · intro h
      have hdevice := isFor_iff.mp h
      have hdevice' := isFor_iff.mp hfor
      rw [hkept.single r hr old hold (hdevice.1.trans hdevice'.1.symm)
        (hdevice.2.trans hdevice'.2.symm)]
    · intro h
      rw [hkept.distinct r hr old hold h]
      exact hfor
  have hmem (r : Session) : r ∈ db'.tables.sessions ↔
      r = session ∨ r ∈ db.tables.sessions ∧ isFor given r = false := by
    change r ∈ (db.tables.sessions.map fun r => if r.id = session.id then session else r) ↔ _
    rw [List.mem_map]
    constructor
    · rintro ⟨s, hs, rfl⟩
      split_ifs with hid
      · exact .inl rfl
      · exact .inr ⟨hs, eq_false_of_ne_true fun h => hid ((hsame s hs).mp h)⟩
    · rintro (rfl | ⟨hr, hother⟩)
      · exact ⟨old, hold, if_pos rfl⟩
      · refine ⟨r, hr, if_neg fun hid => ?_⟩
        rw [(hsame r hr).mpr hid] at hother
        cases hother
  have hids : db.sequences.sessions ≤ db'.sequences.sessions := Int.le_add_one (Int.le_refl _)
  have hother : ∀ r ∈ db.tables.sessions, isFor given r = false → r.id ≠ session.id := by
    intro r hr hfree hid
    rw [(hsame r hr).mpr hid] at hfree
    cases hfree
  have hboth : session.userId = given.userId ∧ session.fingerprint = given.fingerprint := ⟨rfl, rfl⟩
  have hkept' : db'.IsKept := hkept.of_mem_iff hboth (isStorableText_of_isStorable hstorable)
    (Int.le_trans (hkept.given old hold) hids) hids hother hmem
  exact ⟨rfl, rfl, rfl, rfl, rfl, hkept', hmem⟩

/-- **Storing a session is refused and leaves all sessions as they were, or it is stored.** -/
theorem upsertSession_stores (given : Session) (now : Instant) (hkept : db.IsKept) :
    (∃ cause db', (upsertSession given).exec now db = (.error cause, db') ∧
        KeepsSessions db db' ∧ db'.tables = db.tables) ∨
      ∃ session db', (upsertSession given).exec now db = (.ok session, db') ∧
        Stores given session db db' := by
  rcases upsertSession_cases given now db with
    ⟨cause, db', heq, htables⟩ | ⟨old, hold, hfor, hstorable, -, heq⟩ | ⟨hfree, hstorable, -, heq⟩
  · have hgrow := idsGrow_upsertSession given now db
    rw [heq] at hgrow
    exact .inl ⟨cause, db', heq, ⟨by rw [htables], hgrow⟩, htables⟩
  · exact .inr ⟨_, _, heq, stores_replaced hkept hstorable hold hfor now⟩
  · exact .inr ⟨_, _, heq, stores_new hkept hstorable hfree now⟩

/-- Storing a session for a device that has none yet is refused for nothing but a text without a
stored form, a digest that is in use, or a user who is not there. -/
theorem exec_upsertSession {given : Session} (hkept : db.IsKept)
    (hstorable : Schema.isStorable given = true)
    (hfree : ∀ old ∈ db.tables.sessions, isFor given old = false)
    (hdigest : ∀ r ∈ db.tables.sessions, r.tokenHash ≠ given.tokenHash)
    (huser : Schema.hasId db.tables.users given.userId = true) (now : Instant) :
    (upsertSession given).exec now db = (.ok (placed given (db.sequences.sessions + 1) now),
      { db.withNextSessionId with
        tables := addRow (placed given (db.sequences.sessions + 1) now) db.tables }) := by
  let new : Session := placed given (db.sequences.sessions + 1) now
  have hold : db.tables.sessions.find? (isFor given) = none := by
    rw [List.find?_eq_none]
    intro r hr
    simp [hfree r hr]
  have hunused : ∀ r ∈ db.tables.sessions, r.id ≠ db.sequences.sessions + 1 := by
    intro r hr
    have hgiven := hkept.given r hr
    omega
  have hkey : (guardKey new).exec now db.withNextSessionId = (.ok (), db.withNextSessionId) :=
    guardKey_of_unused new hunused
  have hclash : Schema.clash? db.withNextSessionId.tables new = none := by
    refine if_neg ?_
    rw [List.any_eq_true]
    rintro ⟨r, hr, hsame⟩
    exact hdigest r (List.mem_filter.mp hr).1 (of_decide_eq_true hsame)
  have hguard : (guardRow new).exec now db.withNextSessionId = (.ok (), db.withNextSessionId) :=
    guardRow_of_isAdmissible new now ⟨rfl, hclash⟩
  have horphan : Schema.orphan? db.withNextSessionId.tables new = none := if_pos huser
  have hreferences : (guardReferences new).exec now db.withNextSessionId =
      (.ok (), db.withNextSessionId) := guardReferences_of_none new horphan
  rw [exec_upsertSession_of_storable hstorable, hold]
  unfold placeSession
  rw [Op.exec_bind_ok hkey, Op.exec_bind_ok hguard, Op.exec_bind_ok hreferences,
    Op.exec_bind_ok (exec_append new now _)]
  rfl

/-- Storing a session is refused for nothing but a text without a stored form, a digest that is in use, or
a user who is not there. -/
theorem upsertSession_succeeds {given : Session} (hkept : db.IsKept) (hstorable : Schema.isStorable given = true)
    (hdigest : ∀ r ∈ db.tables.sessions, r.tokenHash ≠ given.tokenHash)
    (huser : Schema.hasId db.tables.users given.userId = true) (now : Instant) :
    ∃ session db', (upsertSession given).exec now db = (.ok session, db') := by
  rcases hold : db.tables.sessions.find? (isFor given) with _ | old
  · have hfree (r : Session) (hr : r ∈ db.tables.sessions) : isFor given r = false :=
      eq_false_of_ne_true (List.find?_eq_none.mp hold r hr)
    exact ⟨_, _, exec_upsertSession hkept hstorable hfree hdigest huser now⟩
  · let session : Session := placed given old.id now
    have hclash : Schema.clash? db.withNextSessionId.tables session = none := by
      refine if_neg ?_
      rw [List.any_eq_true]
      rintro ⟨r, hr, hsame⟩
      exact hdigest r (List.mem_filter.mp hr).1 (of_decide_eq_true hsame)
    have hguard : (guardRow session).exec now db.withNextSessionId = (.ok (), db.withNextSessionId) :=
      guardRow_of_isAdmissible session now ⟨rfl, hclash⟩
    rw [exec_upsertSession_of_storable hstorable, hold]
    exact ⟨_, _, (Op.exec_bind_ok hguard).trans (Op.exec_bind_ok (exec_replace session now _))⟩

end Database

end Fostering
