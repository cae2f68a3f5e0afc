import Fostering.Proofs.Database.Integrity
import Fostering.Proofs.Database.Retention
import Fostering.Proofs.Requests.Bounds
import Fostering.Proofs.Requests.Failures
import Fostering.Proofs.Requests.Fitting
import Fostering.Proofs.Requests.Passing

/-!
# The roles of a user

A profile is found by its id or by its user, and these are searches of their own: nothing but the unique
index on live profiles makes them agree. Profiles that have been deleted are still there, with their
reviews and their marks, and so is the counter of their ids, which never goes back. Making a profile and
deleting it are opposites as far as roles go: there is one role more, or one less, and nobody else's roles
change (`GainsRole`).

* `Role.profile?`: the search by user; `profile?_eq_some_iff`: what it comes to in sound tables.
* `gainsProfile_addRow`, `gainsProfile_putRow`: new rows and deleted ones.
* `Database.hasRoles_iff`: what a user is told about their roles.
* `Profiles.roles_agree`: all of it, after whatever has happened to the empty database.
-/

namespace Fostering

open Database

/-! ## The search by user -/

/-- The table of a kind of profile. -/
def Role.table : Role → TableName
  | keeper => .keepers
  | seeker => .seekers
  | vet => .vets

/-- The id of the first live profile of a kind that a user has. -/
def Role.profile? : Role → Int → Tables → Option Int
  | keeper, userId, t =>
      (t.keepers.find? fun k => k.userId = userId && k.entry.isLive).map fun k => k.entry.id
  | seeker, userId, t =>
      (t.seekers.find? fun s => s.userId = userId && s.entry.isLive).map fun s => s.entry.id
  | vet, userId, t =>
      (t.vets.find? fun v => v.userId = userId && v.entry.isLive).map fun v => v.entry.id

namespace Role

variable {role role' : Role} {t t' : Tables}

/-- Users are no profiles. -/
theorem table_ne_users (role : Role) : role.table ≠ .users := by
  cases role <;> decide

/-- Roles are told apart by their tables. -/
theorem eq_of_table (h : role.table = role'.table) : role = role' := by
  revert h
  cases role <;> cases role' <;> decide

/-- The profile of a user is seen from the table of its role alone. -/
theorem profile?_of_agrees (h : role.table.Agrees t t') (userId : Int) :
    role.profile? userId t' = role.profile? userId t := by
  cases role with
  | keeper =>
      have hrows : t'.keepers = t.keepers := h
      rw [profile?, profile?, hrows]
  | seeker =>
      have hrows : t'.seekers = t.seekers := h
      rw [profile?, profile?, hrows]
  | vet =>
      have hrows : t'.vets = t.vets := h
      rw [profile?, profile?, hrows]

end Role

/-! ## Tables of profiles -/

/-- A table of profiles. Nothing but a live profile of the same user stands in the way of a profile, and all
that a profile refers to is its user. -/
class ProfileTable (ρ : Type) [Editable ρ] [NamedTable ρ] [Exclusive ρ] where
  role : Role
  /-- The user who has a profile. -/
  owner : ρ → Int
  name_eq : NamedTable.name ρ = role.table
  profile?_eq : ∀ userId t, role.profile? userId t =
    ((Table.rows t : List ρ).find? fun r => owner r = userId && HasEntry.isLive r).map Table.id
  owner_draft : ∀ (id : Int) (given : ρ), owner (Table.setId id (draft given)) = owner given
  excludes : ∀ {r s : ρ}, HasEntry.isLive r = true → HasEntry.isLive s = true → owner r = owner s →
    Exclusive.Excludes r s
  clash : ∀ {t : Tables} {r : ρ},
    (∀ s ∈ (Table.rows t : List ρ), HasEntry.isLive s = true → owner s ≠ owner r) → Schema.clash? t r = none
  orphan : ∀ {t : Tables} {r : ρ}, owner r ∈ ids User t → Schema.orphan? t r = none

/-- A profile of a user of whom there is no live one among the rows clashes with none. -/
theorem index_of_unowned {ρ : Type} [Table ρ] [HasEntry ρ] {t : Tables} {r : ρ} {index : UniqueIndex}
    (owner : ρ → Int)
    (h : ∀ s ∈ (Table.rows t : List ρ), HasEntry.isLive s = true → owner s ≠ owner r) :
    (if (Schema.others t r).any fun s => HasEntry.isLive s && decide (owner s = owner r) then some index
      else none) = none := by
  refine index_of_none fun s hs htaken => ?_
  rw [Bool.and_eq_true, decide_eq_true_eq] at htaken
  exact h s (Schema.mem_others.mp hs).1 htaken.1 htaken.2

instance : ProfileTable Keeper where
  role := .keeper
  owner := Keeper.userId
  name_eq := rfl
  profile?_eq _ _ := rfl
  owner_draft _ _ := rfl
  excludes hr hs howner := ⟨hr, hs, howner⟩
  clash h := index_of_unowned Keeper.userId h
  orphan h := missingUser?_of_mem h _ _

instance : ProfileTable Seeker where
  role := .seeker
  owner := Seeker.userId
  name_eq := rfl
  profile?_eq _ _ := rfl
  owner_draft _ _ := rfl
  excludes hr hs howner := ⟨hr, hs, howner⟩
  clash h := index_of_unowned Seeker.userId h
  orphan h := missingUser?_of_mem h _ _

instance : ProfileTable Vet where
  role := .vet
  owner := Vet.userId
  name_eq := rfl
  profile?_eq _ _ := rfl
  owner_draft _ _ := rfl
  excludes hr hs howner := ⟨hr, hs, howner⟩
  clash h := index_of_unowned Vet.userId h
  orphan h := missingUser?_of_mem h _ _

namespace Database

/-- The second tables are as the first, but for one more profile of a user. -/
structure GainsProfile (t t' : Tables) (role : Role) (userId id : Int) : Prop where
  first : role.profile? userId t = none
  second : role.profile? userId t' = some id
  others : ∀ role' v, ¬(role' = role ∧ v = userId) → role'.profile? v t' = role'.profile? v t
  users : t'.users = t.users

section

variable {ρ : Type} [Editable ρ] [NamedTable ρ] [Exclusive ρ] [ProfileTable ρ] {t : Tables} {db : Database}
  {now : Instant} {userId id : Int}

open ProfileTable

/-- A user without a profile has no live row. -/
theorem ne_owner_of_profile? (h : (role ρ).profile? userId t = none) :
    ∀ r ∈ (Table.rows t : List ρ), HasEntry.isLive r = true → owner r ≠ userId := by
  rw [profile?_eq, Option.map_eq_none_iff, List.find?_eq_none] at h
  intro r hr hlive howner
  exact h r hr (by rw [howner, hlive, decide_eq_true rfl]; rfl)

/-- Rows of a table of profiles decide nothing about other kinds of profile. -/
theorem profile?_setRows {role' : Role} (hne : role' ≠ role ρ) (rows : List ρ) (t : Tables) (v : Int) :
    role'.profile? v (Table.setRows rows t) = role'.profile? v t := by
  refine Role.profile?_of_agrees (NamedTable.agrees_setRows (fun hname => ?_) rows t) v
  exact hne (Role.eq_of_table (hname.trans name_eq))

/-- To set the profiles of a kind changes no user. -/
theorem users_setRows (rows : List ρ) (t : Tables) : (Table.setRows rows t).users = t.users := by
  have hagrees : TableName.users.Agrees t (Table.setRows rows t) :=
    NamedTable.agrees_setRows (fun hname => (role ρ).table_ne_users (name_eq.symm.trans hname.symm)) rows t
  exact hagrees

/-- A live row of a user who has none is their profile. -/
theorem gainsProfile_addRow {new : ρ} (hlive : HasEntry.isLive new = true)
    (hfirst : (role ρ).profile? (owner new) t = none) :
    GainsProfile t (addRow new t) (role ρ) (owner new) (Table.id new) := by
  have hsearch (v : Int) : (role ρ).profile? v (addRow new t) = ((role ρ).profile? v t).or
      (([new].find? fun r => owner r = v && HasEntry.isLive r).map Table.id) := by
    rw [profile?_eq, profile?_eq, rows_addRow, List.find?_append, Option.map_or]
  refine ⟨hfirst, ?_, fun role' v hother => ?_, users_setRows _ _⟩
  · rw [hsearch, hfirst, Option.none_or, List.find?_cons_of_pos (by rw [hlive, decide_eq_true rfl]; rfl)]
    rfl
  · by_cases hrole : role' = role ρ
    · subst hrole
      have hnot : [new].find? (fun r => decide (owner r = v) && HasEntry.isLive r) = none := by
        rw [List.find?_singleton, decide_eq_false fun howner => hother ⟨rfl, howner.symm⟩]
        rfl
      rw [hsearch, hnot]
      exact Option.or_none
    · exact profile?_setRows hrole _ t v

variable [NumberedTable ρ] [Referring ρ] [SoundTable ρ]

/-- **The search by user finds the live profile of the user.** -/
theorem profile?_eq_some_iff (hsound : Sound t) : (role ρ).profile? userId t = some id ↔
    ∃ r ∈ (Table.rows t : List ρ), Table.id r = id ∧ HasEntry.isLive r = true ∧ owner r = userId := by
  rw [profile?_eq, Option.map_eq_some_iff]
  constructor
  · rintro ⟨r, hfound, hid⟩
    have hr := List.find?_some hfound
    rw [Bool.and_eq_true, decide_eq_true_eq] at hr
    exact ⟨r, List.mem_of_find?_eq_some hfound, hid, hr.2, hr.1⟩
  · rintro ⟨r, hr, hid, hlive, howner⟩
    rcases hfound : (Table.rows t : List ρ).find? fun r => owner r = userId && HasEntry.isLive r with _ | s
    · have hnot := List.find?_eq_none.mp hfound r hr
      rw [howner, hlive, decide_eq_true rfl] at hnot
      exact absurd rfl hnot
    · -- the index leaves no room for two live profiles of a user
      have hs := List.find?_some hfound
      rw [Bool.and_eq_true, decide_eq_true_eq] at hs
      have hmem := List.mem_of_find?_eq_some hfound
      have hsame : Table.id s = Table.id r := by_contra fun hne =>
        (hsound.tidy (ρ := ρ)).apart s hmem r hr hne (excludes hs.2 hlive (hs.1.trans howner.symm))
      exact ⟨s, rfl, hsame.trans hid⟩

/-- The rows that are left when a profile has been deleted are the live ones under other ids. -/
theorem profile?_putRow_eq_some_iff (hsound : Sound t) {old : ρ} (hold : old ∈ (Table.rows t : List ρ))
    (hlive : HasEntry.isLive old = true) (now : Instant) :
    (role ρ).profile? userId (putRow (buried old now) t) = some id ↔
      ∃ r ∈ (Table.rows t : List ρ), Table.id r ≠ Table.id old ∧ Table.id r = id ∧
        HasEntry.isLive r = true ∧ owner r = userId := by
  have hsound' : Sound (putRow (buried old now) t) :=
    sound_of_recordEffect (φ := Unit) hsound (.delete (Table.id old) old hold rfl hlive)
  have hdead : HasEntry.isLive (buried old now) = false := by
    change (HasEntry.entry (buried old now)).isLive = false
    rw [entry_buried]
    rfl
  rw [profile?_eq_some_iff hsound', rows_putRow, SoundTable.id_buried]
  constructor
  · rintro ⟨s, hs, hid, hslive, howner⟩
    obtain ⟨r, hr, rfl⟩ := List.mem_map.mp hs
    split_ifs at hid hslive howner with hsame
    · rw [hdead] at hslive
      cases hslive
    · exact ⟨r, hr, hsame, hid, hslive, howner⟩
  · rintro ⟨r, hr, hne, hrest⟩
    exact ⟨r, List.mem_map.mpr ⟨r, hr, if_neg hne⟩, hrest⟩

/-- A row that has been deleted is the profile of a user no more. -/
theorem gainsProfile_putRow (hsound : Sound t) {old : ρ} (hold : old ∈ (Table.rows t : List ρ))
    (hlive : HasEntry.isLive old = true) (now : Instant) :
    GainsProfile (putRow (buried old now) t) t (role ρ) (owner old) (Table.id old) := by
  refine ⟨?_, (profile?_eq_some_iff hsound).mpr ⟨old, hold, rfl, hlive, rfl⟩, fun role' v hother => ?_,
    (users_setRows _ _).symm⟩
  · refine Option.eq_none_iff_forall_ne_some.mpr fun id hid => ?_
    obtain ⟨r, hr, hne, -, hrlive, howner⟩ := (profile?_putRow_eq_some_iff hsound hold hlive now).mp hid
    -- two live profiles of a user
    exact hsound.tidy.apart r hr old hold hne (excludes hrlive hlive howner)
  · by_cases hrole : role' = role ρ
    · subst hrole
      refine Option.ext fun id => ?_
      rw [profile?_eq_some_iff hsound, profile?_putRow_eq_some_iff hsound hold hlive]
      constructor
      · rintro ⟨r, hr, hid, hrlive, howner⟩
        refine ⟨r, hr, fun hsame => ?_, hid, hrlive, howner⟩
        rw [hsound.tidy.eq_of_id hr hold hsame] at howner
        exact hother ⟨rfl, howner.symm⟩
      · rintro ⟨r, hr, -, hrest⟩
        exact ⟨r, hr, hrest⟩
    · exact (profile?_setRows hrole _ t v).symm

/-! ## Stored profiles -/

/-- The first live profile of a user is stored. -/
theorem create_of_first [MarkedTable ρ] (hsound : Sound db.tables) (hcounted : Counted db) {given : ρ}
    (hstorable : Schema.isStorable (draft given) = true)
    (hholds : Schema.holds (numbered db (draft given)) = true) (howner : owner given ∈ ids User db.tables)
    (hfirst : (role ρ).profile? (owner given) db.tables = none) (now : Instant) :
    let new : ρ := numbered db (draft given)
    ∃ db', (create given).exec now db = (.ok new, db') ∧ db'.tables = addRow new db.tables ∧
      Sound db'.tables ∧ GainsProfile db.tables db'.tables (role ρ) (owner given) (Table.id new) := by
  intro new
  have hsame : owner new = owner given := owner_draft _ given
  have hlive : HasEntry.isLive new = true := by
    change (!(HasEntry.entry new).isDeleted) = true
    rw [(MarkedTable.new_draft _ given).1]
    rfl
  have hnew : IsInsertable db.tables new :=
    { holds := hholds
      clash := clash (by rw [hsame]; exact ne_owner_of_profile? hfirst)
      unused := hcounted.ne_id_numbered (draft given)
      orphan := orphan (by rw [hsame]; exact howner) }
  refine ⟨_, (congrArg (fun op => Op.exec op now db) (create_eq given)).trans
    (insert_of_isInsertable (draft given) now hstorable rfl hnew), rfl, ?_, ?_⟩
  · have heffect : RecordEffect now db.tables (.create given : Store.RecordCall ρ Unit)
        (addRow new db.tables) := .create given _ hnew
    exact sound_of_recordEffect hsound heffect
  · rw [← hsame]
    exact gainsProfile_addRow hlive (by rw [hsame]; exact hfirst)

/-- A live profile is deleted. -/
theorem delete_of_live (hsound : Sound db.tables) {old : ρ} (hold : old ∈ (Table.rows db.tables : List ρ))
    (hlive : HasEntry.isLive old = true) (now : Instant) :
    ∃ db', (delete ρ (Table.id old)).exec now db = (.ok (), db') ∧ Sound db'.tables ∧
      GainsProfile db'.tables db.tables (role ρ) (owner old) (Table.id old) := by
  refine ⟨_, delete_of_find (find_of_nodup hsound.tidy.keys hold hlive now), ?_, ?_⟩
  · exact sound_of_recordEffect (φ := Unit) hsound (.delete (Table.id old) old hold rfl hlive)
  · exact gainsProfile_putRow hsound hold hlive now

/-- **Who finds a profile by its id finds it by its user, and the other way round.** -/
theorem exists_find_iff (hsound : Sound db.tables) :
    (∃ p : ρ, (∀ now, (find ρ id).exec now db = (.ok p, db)) ∧ HasEntry.isLive p = true ∧ owner p = userId) ↔
      (role ρ).profile? userId db.tables = some id := by
  rw [profile?_eq_some_iff hsound]
  constructor
  · rintro ⟨p, hfind, hlive, howner⟩
    rcases find_cases ρ id default db with ⟨r, hr, hid, -, hfound⟩ | ⟨-, hdead⟩
    · rw [hfind] at hfound
      cases hfound
      exact ⟨p, hr, hid, hlive, howner⟩
    · rw [hfind] at hdead
      cases hdead
  · rintro ⟨r, hr, rfl, hlive, howner⟩
    exact ⟨r, find_of_nodup hsound.tidy.keys hr hlive, hlive, howner⟩

end

/-! ## Roles -/

/-- A live profile of a user is found by its id. -/
def FindsProfile (ρ : Type) {φ : Type} [Profile ρ] [Store.Profiles Database ρ φ] (db : Database)
    (userId id : Int) : Prop :=
  ∃ p : ρ, (∀ now, (Store.Records.find id : Op Database ρ).exec now db = (.ok p, db)) ∧
    HasEntry.isLive p = true ∧ Profile.userId p = userId

/-- A live profile of a kind that a user has is found by its id. -/
def Finds (db : Database) : Role → Int → Int → Prop
  | .keeper => FindsProfile Keeper db
  | .seeker => FindsProfile Seeker db
  | .vet => FindsProfile Vet db

/-- A user is told of their roles: the kinds of which there is a live profile of theirs, in order, each
once. -/
structure HasRoles (db : Database) (userId : Int) (roles : List UserRole) : Prop where
  told : ∀ now, (Profiles.rolesOf userId : Op Database (List UserRole)).exec now db = (.ok roles, db)
  ordered : (roles.map UserRole.role).Sublist [.keeper, .seeker, .vet]
  mem_iff : ∀ role id, ⟨role, id⟩ ∈ roles ↔ db.Finds role userId id

/-- The second database is as the first as far as roles go, but for one more role of a user. -/
structure GainsRole (db db' : Database) (userId : Int) (r : UserRole) : Prop where
  user : ∃ roles roles', db.HasRoles userId roles ∧ db'.HasRoles userId roles' ∧ roles'.Perm (r :: roles)
  others : ∀ v, v ≠ userId → ∀ roles, db.HasRoles v roles ↔ db'.HasRoles v roles

/-- The roles that the searches by user come to. -/
def roles (db : Database) (userId : Int) : List UserRole :=
  [Role.keeper, .seeker, .vet].flatMap fun role =>
    ((role.profile? userId db.tables).map fun id => ⟨role, id⟩).toList

section

variable {db db' : Database} {role : Role} {userId id : Int} {roles : List UserRole}

/-- A role is listed exactly if the user has a live profile for it. -/
theorem mem_roles {r : UserRole} :
    r ∈ db.roles userId ↔ r.role.profile? userId db.tables = some r.profileId := by
  have hall : r.role ∈ [Role.keeper, .seeker, .vet] := by
    cases r.role <;> decide
  unfold Database.roles
  simp only [List.mem_flatMap, Option.mem_toList, Option.map_eq_some_iff]
  constructor
  · rintro ⟨role, -, id, hfound, rfl⟩
    exact hfound
  · intro hfound
    exact ⟨r.role, hall, r.profileId, hfound, rfl⟩

/-- Roles are listed in a fixed order, and each at most once. -/
theorem ordered_roles (db : Database) (userId : Int) :
    ((db.roles userId).map UserRole.role).Sublist [.keeper, .seeker, .vet] := by
  have hone (role : Role) :
      (((role.profile? userId db.tables).map fun id => UserRole.mk role id).toList.map UserRole.role).Sublist
        [role] := by
    cases role.profile? userId db.tables with
    | none => exact List.nil_sublist _
    | some id => exact List.Sublist.refl _
  unfold Database.roles
  simp only [List.flatMap_cons, List.flatMap_nil, List.append_nil, List.map_append]
  exact (hone .keeper).append ((hone .seeker).append (hone .vet))

/-- No role is listed twice. -/
theorem nodup_roles (db : Database) (userId : Int) : (db.roles userId).Nodup :=
  .of_map UserRole.role ((ordered_roles db userId).nodup (by decide))

/-- The roles of a user are seen from the profiles alone. -/
theorem roles_congr (h : ∀ role : Role, role.profile? userId db'.tables = role.profile? userId db.tables) :
    db'.roles userId = db.roles userId := by
  unfold Database.roles
  simp only [h]

/-- A profile is found for a user exactly if it is the live one. -/
theorem finds_iff (hsound : Sound db.tables) :
    db.Finds role userId id ↔ role.profile? userId db.tables = some id := by
  cases role with
  | keeper => exact exists_find_iff (ρ := Keeper) hsound
  | seeker => exact exists_find_iff (ρ := Seeker) hsound
  | vet => exact exists_find_iff (ρ := Vet) hsound

/-- There is a live user with the id. -/
def HasUser (db : Database) (userId : Int) : Prop :=
  ∃ u ∈ db.tables.users, u.entry.id = userId ∧ u.entry.isLive = true

/-- The service lists the roles that a user has. -/
theorem exec_rolesOf (hsound : Sound db.tables) (huser : db.HasUser userId) (now : Instant) :
    (Profiles.rolesOf userId : Op Database (List UserRole)).exec now db = (.ok (db.roles userId), db) := by
  obtain ⟨u, hu, rfl, hlive⟩ := huser
  have hfind : (Store.Records.find u.entry.id : Op Database User).exec now db = (.ok u, db) :=
    find_of_nodup (hsound .users).keys hu hlive now
  have hkeeper := Profiles.stored_keepers.exec_findByUser now db u.entry.id
  have hseeker := Profiles.stored_seekers.exec_findByUser now db u.entry.id
  have hvet := Profiles.stored_vets.exec_findByUser now db u.entry.id
  unfold Profiles.rolesOf
  rw [Op.exec_bind_ok hfind, Op.exec_bind_ok hkeeper, Op.exec_bind_ok hseeker, Op.exec_bind_ok hvet]
  unfold Database.roles
  simp only [List.flatMap_cons, List.flatMap_nil, List.append_nil, Role.profile?, Option.map_map]
  rw [← List.append_assoc]
  rfl

/-- **Users are told of their roles if they are live, and otherwise told of none.** -/
theorem hasRoles_iff (hsound : Sound db.tables) :
    db.HasRoles userId roles ↔ db.HasUser userId ∧ roles = db.roles userId := by
  constructor
  · intro h
    have huser : db.HasUser userId := by
      by_contra hnobody
      have hfind : (Store.Records.find userId : Op Database User).exec default db =
          (.error (notFound User userId), db) :=
        exec_find_of_dead (fun u hu hid => Bool.eq_false_iff.mpr fun hlive => hnobody ⟨u, hu, hid, hlive⟩) _
      have htold := h.told default
      rw [Profiles.rolesOf, Op.exec_bind_error hfind] at htold
      cases htold
    refine ⟨huser, ?_⟩
    have htold := h.told default
    rw [exec_rolesOf hsound huser] at htold
    cases htold
    rfl
  · rintro ⟨huser, rfl⟩
    exact ⟨exec_rolesOf hsound huser, ordered_roles db userId,
      fun role id => mem_roles.trans (finds_iff hsound).symm⟩

/-- **Where there is one more profile there is one more role.** -/
theorem gainsRole_of_gainsProfile (hsound : Sound db.tables) (hsound' : Sound db'.tables)
    (huser : db.HasUser userId) (h : GainsProfile db.tables db'.tables role userId id) :
    GainsRole db db' userId ⟨role, id⟩ := by
  have husers (v : Int) : db'.HasUser v ↔ db.HasUser v := by
    unfold HasUser
    rw [h.users]
  constructor
  · refine ⟨_, _, (hasRoles_iff hsound).mpr ⟨huser, rfl⟩,
      (hasRoles_iff hsound').mpr ⟨(husers userId).mpr huser, rfl⟩, ?_⟩
    have hnew : (⟨role, id⟩ : UserRole) ∉ db.roles userId := fun hmem => by
      have hfound := mem_roles.mp hmem
      rw [h.first] at hfound
      cases hfound
    -- lists without repetitions with the same elements are permutations of one another
    refine (List.perm_ext_iff_of_nodup (nodup_roles db' userId)
      (List.nodup_cons.mpr ⟨hnew, nodup_roles db userId⟩)).mpr fun r => ?_
    rw [List.mem_cons, mem_roles, mem_roles]
    by_cases hrole : r.role = role
    · rw [hrole, h.first, h.second]
      constructor
      · intro hid
        obtain ⟨_, _⟩ := r
        cases hrole
        cases hid
        exact .inl rfl
      · rintro (rfl | hnone)
        · rfl
        · cases hnone
    · rw [h.others _ _ fun hsame => hrole hsame.1]
      exact (or_iff_right fun hsame => hrole (congrArg UserRole.role hsame)).symm
  · intro v hv roles
    have hsame : db'.roles v = db.roles v := roles_congr fun role' => h.others role' v fun hboth => hv hboth.2
    rw [hasRoles_iff hsound, hasRoles_iff hsound', husers, hsame]

end

/-! ## Making profiles and deleting them -/

/-- What comes of making a profile of a kind for a user, by whether they have one. -/
structure Founds {ρ : Type} [Table ρ] (db : Database) (role : Role) (userId : Int) (roles : List UserRole)
    (make : Op Database ρ) (now : Instant) : Prop where
  made_iff : (∃ p db', make.exec now db = (.ok p, db')) ↔ ∀ id, ⟨role, id⟩ ∉ roles
  repeated (id : Int) (h : ⟨role, id⟩ ∈ roles) :
    make.exec now db = (.error (.conflict ("User already has a " ++ role.name ++ " profile")), db)
  made (p : ρ) (db' : Database) (h : make.exec now db = (.ok p, db')) :
    (∀ q ∈ (Table.rows db.tables : List ρ), Table.id q < Table.id p) ∧
      db.GainsRole db' userId ⟨role, Table.id p⟩

/-- What comes of deleting a profile of a kind that a user has: there is one role less. -/
def Ends (db : Database) (role : Role) (userId : Int) (roles : List UserRole)
    (remove : Int → Op Database Unit) : Prop :=
  ∀ id, ⟨role, id⟩ ∈ roles → ∀ now, ∃ db', (remove id).exec now db = (.ok (), db') ∧
    db'.GainsRole db userId ⟨role, id⟩

section

variable {ρ : Type} [Editable ρ] [NamedTable ρ] [NumberedTable ρ] [Exclusive ρ] [Referring ρ] [SoundTable ρ]
  [ProfileTable ρ] {db db' : Database} {make : Op Database ρ} {given p : ρ} {now : Instant}

open ProfileTable

/-- An operation stores a profile for a user who has none of the kind, and gives nobody a second one. -/
structure Makes (db : Database) (make : Op Database ρ) (given : ρ) (now : Instant) : Prop where
  storable : Schema.isStorable (draft given) = true
  holds : Schema.holds (numbered db (draft given)) = true
  first : (∀ r ∈ (Table.rows db.tables : List ρ), HasEntry.isLive r = true → owner r ≠ owner given) →
    make.exec now db = (create given).exec now db
  second : ∀ r ∈ (Table.rows db.tables : List ρ), HasEntry.isLive r = true → owner r = owner given →
    make.exec now db = (.error (.conflict ("User already has a " ++ (role ρ).name ++ " profile")), db)

/-- A user who has a live profile cannot make another of that kind. -/
theorem Makes.exec_of_second (hsound : Sound db.tables) (h : Makes db make given now) {id : Int}
    (hsecond : (role ρ).profile? (owner given) db.tables = some id) :
    make.exec now db = (.error (.conflict ("User already has a " ++ (role ρ).name ++ " profile")), db) := by
  obtain ⟨r, hr, -, hlive, howner⟩ := (profile?_eq_some_iff hsound).mp hsecond
  exact h.second r hr hlive howner

section

variable [MarkedTable ρ] (hsound : Sound db.tables) (hcounted : Counted db) (huser : db.HasUser (owner given))
  (h : Makes db make given now)
include hsound hcounted huser h

/-- A user who has no live profile makes one with the next id. -/
theorem Makes.exec_of_first (hfirst : (role ρ).profile? (owner given) db.tables = none) :
    let new : ρ := numbered db (draft given)
    ∃ db', make.exec now db = (.ok new, db') ∧ db'.tables = addRow new db.tables ∧ Sound db'.tables ∧
      GainsProfile db.tables db'.tables (role ρ) (owner given) (Table.id new) := by
  have howner : owner given ∈ ids User db.tables := by
    obtain ⟨u, hu, hid, -⟩ := huser
    exact hid ▸ List.mem_map_of_mem hu
  rw [h.first (ne_owner_of_profile? hfirst)]
  exact create_of_first hsound hcounted h.storable h.holds howner hfirst now

/-- A profile that has been made is the new row. -/
theorem Makes.of_ok (hok : make.exec now db = (.ok p, db')) :
    p = numbered db (draft given) ∧ db'.tables = addRow p db.tables ∧ Sound db'.tables ∧
      GainsProfile db.tables db'.tables (role ρ) (owner given) (Table.id p) := by
  rcases hprofile : (role ρ).profile? (owner given) db.tables with _ | id
  · obtain ⟨db'', hexec, hrest⟩ := h.exec_of_first hsound hcounted huser hprofile
    rw [hok] at hexec
    cases hexec
    exact ⟨rfl, hrest⟩
  · rw [h.exec_of_second hsound hprofile] at hok
    cases hok

/-- **A user gets a profile of a kind exactly if they have none, and then the role that it gives.** -/
theorem Makes.founds : Founds db (role ρ) (owner given) (db.roles (owner given)) make now := by
  have hmem (id : Int) : ⟨role ρ, id⟩ ∈ db.roles (owner given) ↔
      (role ρ).profile? (owner given) db.tables = some id := mem_roles
  refine ⟨⟨?_, fun hnone => ?_⟩, fun id hid => ?_, fun p db' hok => ?_⟩
  · rintro ⟨p, db', hok⟩ id hid
    obtain ⟨-, -, -, hgains⟩ := h.of_ok hsound hcounted huser hok
    have hfound := (hmem id).mp hid
    rw [hgains.first] at hfound
    cases hfound
  · have hfirst : (role ρ).profile? (owner given) db.tables = none :=
      Option.eq_none_iff_forall_ne_some.mpr fun id hid => hnone id ((hmem id).mpr hid)
    obtain ⟨db', hexec, -⟩ := h.exec_of_first hsound hcounted huser hfirst
    exact ⟨_, db', hexec⟩
  · exact h.exec_of_second hsound ((hmem id).mp hid)
  · obtain ⟨rfl, -, hsound', hgains⟩ := h.of_ok hsound hcounted huser hok
    refine ⟨fun q hq => ?_, gainsRole_of_gainsProfile hsound hsound' huser hgains⟩
    rw [Table.id_setId]
    exact Int.lt_add_one_of_le (hcounted.id_le q hq)

end

/-- **Users can delete the profiles that they are told of, and lose the roles that these give.** -/
theorem ends (hsound : Sound db.tables) {userId : Int} (huser : db.HasUser userId)
    {remove : Int → Int → Op Database Unit}
    (hremove : ∀ p id now, (find ρ id).exec now db = (.ok p, db) →
      (remove (owner p) id).exec now db = (delete ρ id).exec now db) :
    Ends db (role ρ) userId (db.roles userId) (remove userId) := by
  intro id hid now
  obtain ⟨p, hp, rfl, hlive, rfl⟩ := (profile?_eq_some_iff hsound).mp (mem_roles.mp hid)
  obtain ⟨db', hdelete, hsound', hgains⟩ := delete_of_live hsound hp hlive now
  have hfind := find_of_nodup hsound.tidy.keys hp hlive now
  refine ⟨db', (hremove p _ now hfind).trans hdelete, gainsRole_of_gainsProfile hsound' hsound ?_ hgains⟩
  unfold HasUser
  rw [← hgains.users]
  exact huser

end

end Database

/-! ## The service -/

namespace Profiles

variable {db : Database} {now : Instant} {userId : Int}

/-- Where no live profile of the user stands in the way, making one is left to the database. -/
theorem exec_create_of_unowned {ρ φ : Type} [Profile ρ] [Table ρ] [Store.Profiles Database ρ φ]
    (hstored : Stored ρ) (profile : ρ) (hfirst : ∀ p ∈ (Table.rows db.tables : List ρ),
      HasEntry.isLive p = true → Profile.userId p ≠ Profile.userId profile) :
    (create profile : Op Database ρ).exec now db =
      (Store.Records.create (HasEntry.modifyEntry (·.stamped now) profile) : Op Database ρ).exec now db :=
  exec_create_of_first hstored fun p hp htaken =>
    Bool.eq_false_iff.mpr fun hlive => hfirst p hp hlive htaken

/-- A request for a keeper that keeps the rules makes one. -/
theorem makes_keeper {request : CreateKeeper} (hvalid : request.violations = [])
    (htexts : HasStorableTexts (request.toKeeper userId)) (hnow : now.isStorable = true) :
    Makes db (create (request.toKeeper userId) : Op Database Keeper)
      (HasEntry.modifyEntry (·.stamped now) (request.toKeeper userId)) now := by
  have hbounds := CreateKeeper.inBounds (P := False) hvalid userId
  constructor
  · exact isStorable_of htexts (isStorable_new hnow rfl)
  · exact Keeper.holds_iff.mpr ⟨hbounds.price, hbounds.boardingCapacity.1⟩
  · exact exec_create_of_unowned stored_keepers (request.toKeeper userId)
  · exact fun p hp hlive htaken =>
      exec_create_of_second stored_keepers (request.toKeeper userId) hp hlive htaken now

/-- A request for a seeker makes one. -/
theorem makes_seeker {request : CreateSeeker} (htexts : HasStorableTexts (request.toSeeker userId))
    (hnow : now.isStorable = true) : Makes db (create (request.toSeeker userId) : Op Database Seeker)
      (HasEntry.modifyEntry (·.stamped now) (request.toSeeker userId)) now := by
  constructor
  · exact isStorable_of htexts (isStorable_new hnow rfl)
  · rfl
  · exact exec_create_of_unowned stored_seekers (request.toSeeker userId)
  · exact fun p hp hlive htaken =>
      exec_create_of_second stored_seekers (request.toSeeker userId) hp hlive htaken now

/-- A request for a vet that keeps the rules makes one. -/
theorem makes_vet {request : CreateVet} (hvalid : request.violations = [])
    (htexts : HasStorableTexts (request.toVet userId)) (hnow : now.isStorable = true) :
    Makes db (create (request.toVet userId) : Op Database Vet)
      (HasEntry.modifyEntry (·.stamped now) (request.toVet userId)) now := by
  have hbounds := CreateVet.inBounds (P := False) hvalid userId
  constructor
  · exact isStorable_of htexts (isStorable_new hnow rfl)
  · exact Vet.holds_iff.mpr ⟨hbounds.experienceYears.1, hbounds.price⟩
  · exact exec_create_of_unowned stored_vets (request.toVet userId)
  · exact fun p hp hlive htaken =>
      exec_create_of_second stored_vets (request.toVet userId) hp hlive htaken now

/-- A keeper of whom nobody has thought anything yet, however their user was thought of before. -/
structure IsNewKeeper (db : Database) (k : Keeper) : Prop where
  found : ∀ now, (Store.Records.find k.entry.id : Op Database Keeper).exec now db = (.ok k, db)
  rating : k.rating = .zero
  reviews : ∀ r ∈ db.tables.reviews, r.keeperId ≠ k.entry.id
  favourites : ∀ f ∈ db.tables.favourites, f.keeperId ≠ k.entry.id

/-- **A keeper profile starts without a rating, reviews and marks.** -/
theorem isNewKeeper_of_ok {db' : Database} {make : Op Database Keeper} {given k : Keeper}
    (hsound : Sound db.tables) (hcounted : Counted db) (huser : db.HasUser given.userId)
    (h : Makes db make given now) (hok : make.exec now db = (.ok k, db')) : IsNewKeeper db' k := by
  obtain ⟨rfl, htables, hsound', -⟩ := h.of_ok hsound hcounted huser hok
  have hunused (id : Int) (hid : id ∈ ids Keeper db.tables) :
      id ≠ Table.id (numbered db (draft given)) := by
    obtain ⟨l, hl, rfl⟩ := List.mem_map.mp hid
    exact hcounted.ne_id_numbered (draft given) l hl
  have hmem : numbered db (draft given) ∈ db'.tables.keepers := by
    rw [htables]
    exact List.mem_append_right _ (List.mem_singleton_self _)
  have hreviews : db'.tables.reviews = db.tables.reviews := by
    rw [htables]
    rfl
  have hfavourites : db'.tables.favourites = db.tables.favourites := by
    rw [htables]
    rfl
  constructor
  · exact find_of_nodup (hsound' .keepers).keys hmem rfl
  · rfl
  · rw [hreviews]
    exact fun r hr => hunused _ (hsound.isClosed.reviews r hr).1
  · rw [hfavourites]
    exact fun f hf => hunused _ (hsound.isClosed.favourites f hf).2

/-- **Whatever has happened to the empty database, live users are told of the kinds of which there is a live
profile of theirs.** They get another profile exactly if they have none of the kind. Then they have one role
more, whose id no profile has had before, and a keeper starts from nothing; if they delete a profile they
have one role less. Nobody else's roles change. -/
theorem roles_agree (events : List Event) {userId : Int} (huser : (after events).HasUser userId)
    {now : Instant} (hnow : now.isStorable = true) :
    let db := after events
    ∃ roles, db.HasRoles userId roles ∧
      (∀ request : CreateKeeper, request.violations = [] → HasStorableTexts (request.toKeeper userId) →
        let make : Op Database Keeper := create (request.toKeeper userId)
        Founds db .keeper userId roles make now ∧
          ∀ k db', make.exec now db = (.ok k, db') → IsNewKeeper db' k) ∧
      (∀ request : CreateSeeker, request.violations = [] → HasStorableTexts (request.toSeeker userId) →
        Founds db .seeker userId roles (create (request.toSeeker userId)) now) ∧
      (∀ request : CreateVet, request.violations = [] → HasStorableTexts (request.toVet userId) →
        Founds db .vet userId roles (create (request.toVet userId)) now) ∧
      Ends db .keeper userId roles (delete Keeper userId) ∧
      Ends db .seeker userId roles (delete Seeker userId) ∧
      Ends db .vet userId roles (delete Vet userId) := by
  intro db
  have hsound : Sound db.tables := isSound_after events
  have hcounted : Counted db := ids_le_lastId events
  refine ⟨db.roles userId, (hasRoles_iff hsound).mpr ⟨huser, rfl⟩, fun request hvalid htexts => ?_,
    fun request _ htexts => ?_, fun request hvalid htexts => ?_, ?_, ?_, ?_⟩
  · have hmakes : Makes db (create (request.toKeeper userId) : Op Database Keeper) _ now :=
      makes_keeper hvalid htexts hnow
    exact ⟨hmakes.founds hsound hcounted huser, fun k db' => isNewKeeper_of_ok hsound hcounted huser hmakes⟩
  · exact (makes_seeker htexts hnow).founds hsound hcounted huser
  · exact (makes_vet hvalid htexts hnow).founds hsound hcounted huser
  · exact ends hsound huser fun p id now hfind => exec_delete_of_own (ρ := Keeper) hfind
  · exact ends hsound huser fun p id now hfind => exec_delete_of_own (ρ := Seeker) hfind
  · exact ends hsound huser fun p id now hfind => exec_delete_of_own (ρ := Vet) hfind

/-- Anna has registered. She has no role, and becomes a keeper. -/
theorem roles_agree_anna :
    let db := serveAll (.blockingAt 3) {} [annaRegisters annasToken]
    let make : Op Database Keeper := create (({} : CreateKeeper).toKeeper 1)
    db.HasRoles 1 [] ∧ ∃ k db', make.exec ⟨60, 0⟩ db = (.ok k, db') ∧ k.rating = .zero ∧
      db'.HasRoles 1 [⟨.keeper, k.entry.id⟩] := by
  intro db make
  obtain ⟨hash, hregisters⟩ := serve_annaRegisters (.blockingAt 3) annasToken
  have hdb : db = withAnna hash [] 0 := by
    unfold db
    rw [serveAll_cons, hregisters, serveAll_nil]
  have hafter : db = after ([annaRegisters annasToken].map (.request (.blockingAt 3))) :=
    serveAll_eq_after _ _
  have huser : db.HasUser 1 := by
    rw [hdb]
    exact ⟨_, List.mem_singleton_self _, rfl, rfl⟩
  have htexts : HasStorableTexts (({} : CreateKeeper).toKeeper 1) :=
    Keeper.hasStorableTexts_iff.mpr ⟨nofun, nofun, nofun⟩
  obtain ⟨roles, hroles, hkeepers, -⟩ := @roles_agree _ 1 (hafter ▸ huser) ⟨60, 0⟩ (by decide)
  rw [← hafter] at hroles hkeepers
  obtain ⟨hfounds, hnew⟩ := hkeepers {} rfl htexts
  obtain rfl : roles = [] := by
    have hsound : Sound db.tables := hafter ▸ isSound_after _
    rw [((hasRoles_iff hsound).mp hroles).2, hdb]
    rfl
  obtain ⟨k, db', hok⟩ := hfounds.made_iff.mpr fun id => List.not_mem_nil
  obtain ⟨before, later, hbefore, hlater, hperm⟩ := (hfounds.made k db' hok).2.user
  obtain rfl : before = [] := by
    have hsame := (hroles.told ⟨60, 0⟩).symm.trans (hbefore.told ⟨60, 0⟩)
    cases hsame
    rfl
  obtain rfl := List.perm_singleton.mp hperm
  exact ⟨hroles, k, db', hok, (hnew k db' hok).rating, hlater⟩

end Profiles

end Fostering
