import Fostering.Proofs.Chats.Participants
import Fostering.Proofs.Listing.Partition
import Fostering.Proofs.Profiles.Roles
import Fostering.Proofs.Requests.Clock

/-!
# Opening chats and reading them

A chat is opened if its creator and all whom the request names are live users, however often somebody is
named. It then has them as members, each once, and they are the users who find it among their chats.
Otherwise nothing is written (`Chats.isDecided_create`).

What is answered is not quite what is read afterwards. The answer names the creator first. The members have
all come at the same instant, though, and are read in the order of their ids (`Chats.isRead_after_create`).

* `ListsChats`: the chats of a user, page by page.
* `Chats.exec_create_of_live`, `Chats.exec_create_of_missing`: what comes of a request to open a chat.
* `Database.keepsChat_foldl`: what happens to a chat that nobody leaves.
* `Chats.isRead_of_member`: what a member is told of a chat.
-/

namespace Fostering

open Database
open SortKey (Precedes)

/-! ## The chats of a user -/

/-- The chats of a user over all pages: the live ones in which the user takes part, each with its members,
those changed last first. -/
def ListsChats (db : Database) (userId : Int) (rows : List ChatWithMembers) : Prop :=
  Lists (Chats.list userId) db
    (fun c => c.chat ∈ db.tables.chats ∧ c.chat.entry.isLive = true ∧
      c.memberIds = memberIds db.tables c.chat.entry.id ∧ userId ∈ c.memberIds)
    (fun c d => Precedes .desc (.moment c.chat.entry.updatedAt, c.chat.entry.id)
      (.moment d.chat.entry.updatedAt, d.chat.entry.id)) rows

section

variable {db : Database} {userId : Int} {rows : List ChatWithMembers}

/-- For every user there are chats to list, maybe none. -/
theorem exists_listsChats (hsound : Sound db.tables) (userId : Int) : ∃ rows, ListsChats db userId rows :=
  lists_chats (hsound .chats).keys userId

/-- A user finds the live chats in which they take part. -/
theorem ListsChats.exists_iff (h : ListsChats db userId rows) {chat : Chat} :
    (∃ c ∈ rows, c.chat = chat) ↔ chat ∈ db.tables.chats ∧ chat.entry.isLive = true ∧
      userId ∈ memberIds db.tables chat.entry.id := by
  constructor
  · rintro ⟨c, hc, rfl⟩
    obtain ⟨hmem, hlive, hmembers, hpart⟩ := (h.mem_iff c).mp hc
    exact ⟨hmem, hlive, hmembers ▸ hpart⟩
  · rintro ⟨hmem, hlive, hpart⟩
    exact ⟨⟨chat, memberIds db.tables chat.entry.id⟩, (h.mem_iff _).mpr ⟨hmem, hlive, rfl, hpart⟩, rfl⟩

end

/-! ## Requests to open a chat -/

namespace Chats

section

variable {db : Database} {actor : Int} {request : CreateChat}

/-- The members of a new chat are told apart, so they are all counted exactly if they are all there. -/
theorem countLiveUsers_membersWith (hsound : Sound db.tables) :
    countLiveUsers db.tables (request.membersWith actor) = (request.membersWith actor).length ↔
      ∀ id ∈ actor :: request.memberIds, db.HasUser id := by
  rw [countLiveUsers_eq_length_iff (hsound .users).keys, and_iff_right (request.nodup_membersWith actor)]
  simp only [CreateChat.mem_membersWith]
  exact Iff.rfl

/-- A chat with somebody who is no live user is not opened. -/
theorem exec_create_of_missing (hsound : Sound db.tables)
    (h : ¬∀ id ∈ actor :: request.memberIds, db.HasUser id) (now : Instant) :
    (create actor request : Op Database ChatWithMembers).exec now db =
      (.error (.validation "One or more chat members do not exist"), db) := by
  rw [exec_create]
  exact exec_createChat_of_missing now db (mt (countLiveUsers_membersWith hsound).mp h)

/-- The chat that a request asks for, under the next id. -/
def drawn (db : Database) (actor : Int) (request : CreateChat) (now : Instant) : Chat :=
  numbered db (draftChat (HasEntry.modifyEntry (·.stamped now) (request.toChat actor)))

/-- A chat of live users is opened. -/
theorem exec_create_of_live (hsound : Sound db.tables) (hcounted : Counted db)
    (h : ∀ id ∈ actor :: request.memberIds, db.HasUser id) (htitle : StorableIfAny request.title)
    {now : Instant} (hnow : now.isStorable = true) :
    (create actor request : Op Database ChatWithMembers).exec now db =
      (.ok ⟨drawn db actor request now, request.membersWith actor⟩, { db with
        tables := joined (drawn db actor request now).entry.id (request.membersWith actor) now
          (addRow (drawn db actor request now) db.tables)
        sequences := Table.setLastId Chat (Table.lastId Chat db.sequences + 1) db.sequences }) := by
  let given : Chat := HasEntry.modifyEntry (·.stamped now) (request.toChat actor)
  have htexts : HasStorableTexts (draftChat given) :=
    forall_mem_presentTexts.mpr (List.forall_mem_singleton.mpr htitle)
  have hstorable : Schema.isStorable (draftChat given) = true :=
    isStorable_of htexts (isStorable_new hnow rfl)
  obtain ⟨u, hu, hid, -⟩ := h actor List.mem_cons_self
  have hcreator : actor ∈ ids User db.tables := hid ▸ List.mem_map_of_mem hu
  have hnew : IsInsertable db.tables (numbered db (draftChat given)) :=
    { holds := rfl
      clash := rfl
      unused := hcounted.ne_id_numbered (draftChat given)
      orphan := missingUser?_of_mem hcreator _ _ }
  have hinsert := insert_of_isInsertable (draftChat given) now hstorable rfl hnew
  rw [exec_create]
  exact createChat_of_insert now db ((countLiveUsers_membersWith hsound).mpr h) hinsert

section

variable {now : Instant} {c : ChatWithMembers} {db' : Database} (hsound : Sound db.tables)
  (h : (create actor request : Op Database ChatWithMembers).exec now db = (.ok c, db'))
include hsound h

/-- A chat that is made leaves sound tables. -/
theorem sound_of_create : Sound db'.tables := by
  let given : Chat := HasEntry.modifyEntry (·.stamped now) (request.toChat actor)
  have hkept := keptByCalls_sound (.createChat given (request.membersWith actor)) now db hsound
  change Sound ((createChat given (request.membersWith actor)).exec now db).2.tables at hkept
  rw [exec_create] at h
  rwa [h] at hkept

/-- A chat that has been opened is one more chat, and its members have joined it. -/
theorem tables_of_create : c.memberIds = request.membersWith actor ∧ c.chat.title = request.title ∧
    OpensChat db.tables db'.tables actor request c.chat ∧
    db'.tables = joined c.chat.entry.id c.memberIds now (addRow c.chat db.tables) := by
  let given : Chat := HasEntry.modifyEntry (·.stamped now) (request.toChat actor)
  rw [exec_create] at h
  rcases createChat_cases now db given (request.membersWith actor) with
    ⟨cause, _, hrefused, -⟩ | ⟨-, id, _, hnew, hexec, htables⟩
  · cases hrefused.symm.trans h
  · cases hexec.symm.trans h
    refine ⟨rfl, rfl, ?_, htables⟩
    rw [htables]
    exact opensChat_joined hsound hnew rfl now

end

/-- A chat has been opened by a user: it has one row for each member, nobody has come into another chat, and
it is found by its members. -/
structure IsOpening (db db' : Database) (actor : Int) (request : CreateChat) (c : ChatWithMembers) : Prop
    extends OpensChat db.tables db'.tables actor request c.chat where
  title : c.chat.title = request.title
  once : ((db'.tables.members.filter fun m => m.chatId = c.chat.entry.id).map Membership.userId).Nodup
  others : ∀ m : Membership, m.chatId ≠ c.chat.entry.id → (m ∈ db'.tables.members ↔ m ∈ db.tables.members)
  listed : ∀ userId, ∃ rows, ListsChats db' userId rows ∧
    ((∃ d ∈ rows, d.chat = c.chat) ↔ userId = actor ∨ userId ∈ request.memberIds)

/-- Whoever makes a chat opens it, and finds it at once. -/
theorem isOpening_of_create (hsound : Sound db.tables) {now : Instant} {c : ChatWithMembers} {db' : Database}
    (h : (create actor request : Op Database ChatWithMembers).exec now db = (.ok c, db')) :
    IsOpening db db' actor request c := by
  obtain ⟨hmembers, htitle, hopens, htables⟩ := tables_of_create hsound h
  have hfresh : ∀ m ∈ (addRow c.chat db.tables).members, m.chatId ≠ c.chat.entry.id :=
    hsound.chatId_ne hopens.fresh
  refine { hopens with title := htitle, once := ?_, others := fun m hm => ?_, listed := fun userId => ?_ }
  · rw [htables, filter_members_joined hfresh, List.map_map, hmembers]
    exact (List.map_id _).symm ▸ request.nodup_membersWith actor
  · rw [htables]
    change m ∈ db.tables.members ++ _ ↔ _
    rw [List.mem_append]
    refine or_iff_left fun hnew => hm ?_
    obtain ⟨userId, -, rfl⟩ := List.mem_map.mp hnew
    rfl
  · obtain ⟨rows, hrows⟩ := exists_listsChats (sound_of_create hsound h) userId
    have hmem : c.chat ∈ db'.tables.chats := by
      rw [hopens.chats]
      exact List.mem_append_right _ (List.mem_singleton_self c.chat)
    refine ⟨rows, hrows, ?_⟩
    rw [hrows.exists_iff, hopens.mem_memberIds]
    exact ⟨fun h => h.2.2, fun h => ⟨hmem, hopens.live, h⟩⟩

/-- What comes of a request to open a chat. -/
structure IsDecided (db : Database) (actor : Int) (request : CreateChat) (now : Instant) : Prop where
  opened_iff : (∃ c db', (create actor request : Op Database ChatWithMembers).exec now db = (.ok c, db')) ↔
    ∀ id ∈ actor :: request.memberIds, db.HasUser id
  opened (c : ChatWithMembers) (db' : Database)
    (h : (create actor request : Op Database ChatWithMembers).exec now db = (.ok c, db')) :
    IsOpening db db' actor request c
  refused (h : ¬∀ id ∈ actor :: request.memberIds, db.HasUser id) :
    (create actor request : Op Database ChatWithMembers).exec now db =
      (.error (.validation "One or more chat members do not exist"), db)

/-- **A chat is opened for live users and for nobody else.** -/
theorem isDecided_create (events : List Event) (actor : Int) (request : CreateChat) (now : Instant)
    (htitle : StorableIfAny request.title) (hnow : now.isStorable = true) :
    IsDecided (after events) actor request now := by
  have hsound := isSound_after events
  have hrefused (h : ¬∀ id ∈ actor :: request.memberIds, (after events).HasUser id) :=
    exec_create_of_missing hsound h now
  refine ⟨⟨?_, fun h => ?_⟩, fun c db' h => isOpening_of_create hsound h, hrefused⟩
  · rintro ⟨c, db', hexec⟩
    by_contra h
    cases hexec.symm.trans (hrefused h)
  · exact ⟨_, _, exec_create_of_live hsound (ids_le_lastId events) h htitle hnow⟩

end

/-- A user names another one twice, and themselves. -/
theorem isDecided_create_kitten :
    StorableIfAny (some "Kitten") ∧ Instant.isStorable ⟨2, 0⟩ = true ∧
      (∃ c db', (create 2 ⟨some "Kitten", [1, 2, 1]⟩ : Op Database ChatWithMembers).exec ⟨2, 0⟩ (after kitten) =
        (.ok c, db')) ∧
      IsDecided (after kitten) 2 ⟨some "Kitten", [1, 2, 1]⟩ ⟨2, 0⟩ := by
  have htitle : StorableIfAny (some "Kitten") := fun text h => Option.some.inj h ▸ by decide
  have hnow : Instant.isStorable ⟨2, 0⟩ = true := by decide
  exact ⟨htitle, hnow, ⟨_, _, rfl⟩, isDecided_create kitten 2 ⟨some "Kitten", [1, 2, 1]⟩ ⟨2, 0⟩ htitle hnow⟩

end Chats

/-! ## Chats that nobody leaves -/

/-- A member is taken out of the chat, or asks to leave it. -/
def Event.Leaves (chatId : Int) : Event → Prop
  | .call made _ => ∃ userId, made = .removeMember chatId userId
  | .request config a => ∃ caller, a.Asks config .leaveChat caller chatId

/-- Chats are opened and left, and no other call writes them. -/
theorem Store.Call.not_writes_chats {call : Store.Call} (hopens : ∀ given users, call ≠ .createChat given users)
    (hleaves : ∀ chatId userId, call ≠ .removeMember chatId userId) :
    TableName.chats ∉ call.writes ∧ TableName.members ∉ call.writes := by
  cases call with
  | user c | keeper c | seeker c | vet c | post c | review c | message c =>
      exact ⟨fun h => absurd (c.writes_subset _ h) (by decide), fun h => absurd (c.writes_subset _ h) (by decide)⟩
  | createChat given users => exact absurd rfl (hopens given users)
  | removeMember chatId userId => exact absurd rfl (hleaves chatId userId)
  | _ => simp [Store.Call.writes]

namespace Database

variable {t t' : Tables} {db : Database} {chatId userId : Int} {chat : Chat} {now : Instant}

/-- The row of a chat and the rows of its members are as they were. -/
structure KeepsChat (chatId : Int) (t t' : Tables) : Prop where
  chats : (t'.chats.filter fun c => c.entry.id = chatId) = t.chats.filter fun c => c.entry.id = chatId
  members : (t'.members.filter fun m => m.chatId = chatId) = t.members.filter fun m => m.chatId = chatId

namespace KeepsChat

theorem trans {t'' : Tables} (h : KeepsChat chatId t t') (h' : KeepsChat chatId t' t'') :
    KeepsChat chatId t t'' :=
  ⟨h'.chats.trans h.chats, h'.members.trans h.members⟩

/-- A chat is kept as long as chats and members are. -/
theorem of_agrees (hchats : TableName.chats.Agrees t t') (hmembers : TableName.members.Agrees t t') :
    KeepsChat chatId t t' := by
  have hchats' : t'.chats = t.chats := hchats
  have hmembers' : t'.members = t.members := hmembers
  exact ⟨by rw [hchats'], by rw [hmembers']⟩

/-- A chat that is kept is there exactly if it was before. -/
theorem mem_iff (h : KeepsChat chat.entry.id t t') : chat ∈ t'.chats ↔ chat ∈ t.chats := by
  have hmem : chat ∈ (t'.chats.filter fun c => c.entry.id = chat.entry.id) ↔
      chat ∈ t.chats.filter fun c => c.entry.id = chat.entry.id := by rw [h.chats]
  simpa using hmem

/-- Another chat is opened. -/
theorem of_joined (hother : chat.entry.id ≠ chatId) (users : List Int) (now : Instant) :
    KeepsChat chatId t (joined chat.entry.id users now (addRow chat t)) := by
  constructor
  · change ((t.chats ++ [chat]).filter _) = _
    have hnone : ([chat].filter fun c => c.entry.id = chatId) = [] := by simpa using hother
    rw [List.filter_append, hnone, List.append_nil]
  · change ((t.members ++ users.map _).filter _) = _
    have hnone : ((users.map fun userId => (⟨chat.entry.id, userId, now.stored⟩ : Membership)).filter
        fun m => m.chatId = chatId) = [] := by
      refine List.filter_eq_nil_iff.mpr fun m hm => ?_
      obtain ⟨userId, -, rfl⟩ := List.mem_map.mp hm
      simpa using hother
    rw [List.filter_append, hnone, List.append_nil]

/-- Another chat is left. -/
theorem of_unjoined {other : Int} (hother : other ≠ chatId) (hid : chat.entry.id = other) (userId : Int) :
    KeepsChat chatId t (putRow chat (unjoined other userId t)) := by
  subst hid
  constructor
  · change ((t.chats.map fun c => if c.entry.id = chat.entry.id then chat else c).filter _) = _
    rw [List.filter_map]
    have hkept : (t.chats.filter ((fun c => decide (c.entry.id = chatId)) ∘
        fun c => if c.entry.id = chat.entry.id then chat else c)) =
        t.chats.filter fun c => c.entry.id = chatId := by
      refine List.filter_congr fun c _ => ?_
      by_cases hc : c.entry.id = chat.entry.id <;> simp [hc, hother]
    rw [hkept]
    refine (List.map_congr_left fun c hc => ?_).trans (List.map_id _)
    have hc : c.entry.id = chatId := of_decide_eq_true (List.mem_filter.mp hc).2
    exact if_neg fun hsame => hother (hsame.symm.trans hc)
  · change ((t.members.filter _).filter _) = _
    rw [List.filter_filter]
    refine List.filter_congr fun m _ => ?_
    by_cases hchat : m.chatId = chatId
    · simp [hchat, hother.symm]
    · simp [hchat]

end KeepsChat

/-- A call that takes nobody out of a chat leaves it as it is. -/
theorem Effect.keepsChat {call : Store.Call} (h : Effect now t call t') (hused : chatId ∈ ids Chat t)
    (hcall : ∀ userId, call ≠ .removeMember chatId userId) : KeepsChat chatId t t' := by
  by_cases hopens : ∃ given users, call = .createChat given users
  · obtain ⟨given, users, rfl⟩ := hopens
    cases h with
    | stay => exact .of_agrees (.refl _ _) (.refl _ _)
    | createChat _ _ id count insertable =>
        have hother : (Table.setId id (draftChat given)).entry.id ≠ chatId := by
          obtain ⟨c, hc, rfl⟩ := List.mem_map.mp hused
          exact (insertable.unused c hc).symm
        exact .of_joined hother users now
  by_cases hleaves : ∃ other userId, call = .removeMember other userId
  · obtain ⟨other, userId, rfl⟩ := hleaves
    have hother : other ≠ chatId := fun heq => hcall userId (heq ▸ rfl)
    cases h with
    | stay => exact .of_agrees (.refl _ _) (.refl _ _)
    | removeMember _ _ chat mem same => exact .of_unjoined hother ((chat.id_left _ now).trans same) userId
  · obtain ⟨hchats, hmembers⟩ := Store.Call.not_writes_chats
      (fun given users heq => hopens ⟨given, users, heq⟩) fun other userId heq => hleaves ⟨other, userId, heq⟩
    exact .of_agrees (h.agrees hchats) (h.agrees hmembers)

/-- Whatever happens leaves a chat as it is, unless it is left by a member. -/
theorem keepsChat_happen {event : Event} (hused : chatId ∈ ids Chat db.tables) (h : ¬event.Leaves chatId) :
    KeepsChat chatId db.tables (db.happen event).tables := by
  cases event with
  | call made now =>
      refine (effect_perform now db made).keepsChat hused fun userId hmade => h ⟨userId, hmade⟩
  | request config a =>
      change KeepsChat chatId db.tables (db.serve config a).tables
      rcases serve_effect config db a with hframe | ⟨endpoint, id?, call, hfind, hwrites, heffect⟩
      · exact .of_agrees (hframe .chats (by decide)) (hframe .members (by decide))
      · refine heffect.keepsChat hused ?_
        rintro userId rfl
        cases hwrites with
        | leaveChat caller _ asks path part => exact h ⟨caller, id?, hfind, asks, path⟩
        | onBoard _ _ h => cases h

/-- A chat that nobody leaves stays as it is. -/
theorem keepsChat_foldl {events : List Event} (hmem : chat ∈ db.tables.chats)
    (h : ∀ event ∈ events, ¬event.Leaves chat.entry.id) :
    KeepsChat chat.entry.id db.tables (events.foldl happen db).tables := by
  induction events generalizing db with
  | nil => exact ⟨rfl, rfl⟩
  | cons event events ih =>
      have hstep := keepsChat_happen (List.mem_map_of_mem hmem) (h event List.mem_cons_self)
      have hrest (event' : Event) (hevent : event' ∈ events) := h event' (List.mem_cons_of_mem event hevent)
      exact hstep.trans (ih (hstep.mem_iff.mpr hmem) hrest)

end Database

/-! ## What is read of a new chat -/

namespace Chats

variable {db : Database} {userId : Int} {c : ChatWithMembers}

/-- A user who asks for the chat is told this of it, and this is the entry of it in the list of their
chats. -/
structure IsRead (db : Database) (userId : Int) (c : ChatWithMembers) : Prop where
  got : ∀ now, (get userId c.chat.entry.id : Op Database ChatWithMembers).exec now db = (.ok c, db)
  listed : ∃ rows, ListsChats db userId rows ∧ c ∈ rows ∧
    ∀ d ∈ rows, d.chat.entry.id = c.chat.entry.id → d = c

/-- What a member is told of a chat. -/
theorem isRead_of_member (hsound : Sound db.tables) {chat : Chat} (hmem : chat ∈ db.tables.chats)
    (hlive : chat.entry.isLive = true) (hpart : userId ∈ memberIds db.tables chat.entry.id) :
    IsRead db userId ⟨chat, memberIds db.tables chat.entry.id⟩ := by
  have honly {d : Chat} (hd : d ∈ db.tables.chats) (hid : d.entry.id = chat.entry.id) : d = chat :=
    eq_of_key (hsound .chats).keys hd hmem hid
  constructor
  case got =>
    intro now
    obtain ⟨found, hfound, hid, hexec⟩ := exec_findAsMember_of_part ⟨chat, hmem, rfl, hlive, hpart⟩ now
    rw [honly hfound hid] at hexec
    exact hexec
  case listed =>
    obtain ⟨rows, hrows⟩ := exists_listsChats hsound userId
    refine ⟨rows, hrows, (hrows.mem_iff _).mpr ⟨hmem, hlive, rfl, hpart⟩, fun d hd hid => ?_⟩
    obtain ⟨hdmem, -, hdmembers, -⟩ := (hrows.mem_iff d).mp hd
    obtain ⟨dchat, dmembers⟩ := d
    obtain rfl : dchat = chat := honly hdmem hid
    exact congrArg (ChatWithMembers.mk dchat) hdmembers

/-- **Members read a new chat as it was answered, but for the order of its members**, as long as nobody
leaves it. They came at once, so they are listed by their ids, while the answer names the creator first and
then the others in the order of the request. It is the same chat exactly if these are in order already. -/
theorem isRead_after_create (events : List Event) {actor : Int} {request : CreateChat} {now : Instant}
    {c : ChatWithMembers} {db : Database}
    (hcreate : (create actor request : Op Database ChatWithMembers).exec now (after events) = (.ok c, db))
    (later : List Event) (hlater : ∀ event ∈ later, ¬event.Leaves c.chat.entry.id) :
    ∃ read : ChatWithMembers, (∀ userId ∈ c.memberIds, IsRead (later.foldl happen db) userId read) ∧
      read.chat = c.chat ∧ read.memberIds.Perm c.memberIds ∧ read.memberIds.Pairwise (· < ·) ∧
      (read = c ↔ c.memberIds.Pairwise (· < ·)) := by
  have hsound := isSound_after events
  obtain ⟨hmembers, -, hopens, htables⟩ := tables_of_create hsound hcreate
  have hmem : c.chat ∈ db.tables.chats := by
    rw [hopens.chats]
    exact List.mem_append_right _ (List.mem_singleton_self c.chat)
  have hkept := keepsChat_foldl hmem hlater
  have hsound' : Sound (later.foldl happen db).tables :=
    foldl_of_calls keptByCalls_sound (sound_of_create hsound hcreate) later
  have hfresh : ∀ m ∈ (addRow c.chat (after events).tables).members, m.chatId ≠ c.chat.entry.id :=
    hsound.chatId_ne hopens.fresh
  let members : List Int := memberIds (later.foldl happen db).tables c.chat.entry.id
  have hjoined : members = memberIds (joined c.chat.entry.id c.memberIds now
      (addRow c.chat (after events).tables)) c.chat.entry.id := by
    rw [← htables]
    exact memberIds_congr hkept.members
  have hperm : members.Perm c.memberIds := hjoined ▸ perm_memberIds_joined hfresh c.memberIds now
  -- all members joined at one instant, so that they are read in the order of their ids
  have hsorted : members.Pairwise (· < ·) :=
    hjoined ▸ pairwise_memberIds_joined hfresh (hmembers ▸ request.nodup_membersWith actor) now
  refine ⟨⟨c.chat, members⟩, fun userId hpart => ?_, rfl, hperm, hsorted, ?_, fun h => ?_⟩
  · exact isRead_of_member hsound' (hkept.mem_iff.mpr hmem) hopens.live (hperm.mem_iff.mpr hpart)
  · intro h
    rw [← congrArg ChatWithMembers.memberIds h]
    exact hsorted
  · have hsame : members = c.memberIds := hperm.eq_of_pairwise (fun i j _ _ hij hji => by omega) hsorted h
    exact congrArg (ChatWithMembers.mk c.chat) hsame

/-- Boris opens a chat with Anna. -/
def borisOpens : Except Error ChatWithMembers × Database :=
  (create 2 ⟨none, [1]⟩ : Op Database ChatWithMembers).exec ⟨2, 0⟩ (after kitten)

/-- The chat as he is answered, with himself first. -/
def borisChat : ChatWithMembers :=
  ⟨{ entry := { id := 1, createdAt := ⟨2, 0⟩, updatedAt := ⟨2, 0⟩ }, createdBy := 2 }, [2, 1]⟩

/-- Anna writes in it. -/
def annaWrites : List Event :=
  [.call (.message (.create { chatId := 1, senderId := 1, content := "Hello" })) ⟨3, 0⟩]

/-- Both members read it so, whatever is written. -/
theorem isRead_after_borisOpens :
    borisOpens = (.ok borisChat, borisOpens.2) ∧ (∀ event ∈ annaWrites, ¬event.Leaves 1) ∧
      ∃ read : ChatWithMembers,
        (∀ userId ∈ borisChat.memberIds, IsRead (annaWrites.foldl happen borisOpens.2) userId read) ∧
          read.chat = borisChat.chat ∧ read.memberIds.Perm borisChat.memberIds ∧ read.memberIds.Pairwise (· < ·) ∧
          (read = borisChat ↔ borisChat.memberIds.Pairwise (· < ·)) := by
  have hopens : borisOpens = (.ok borisChat, borisOpens.2) := rfl
  have hstays : ∀ event ∈ annaWrites, ¬event.Leaves 1 := by
    refine List.forall_mem_singleton.mpr ?_
    rintro ⟨userId, hcall⟩
    cases hcall
  exact ⟨hopens, hstays, isRead_after_create kitten hopens annaWrites hstays⟩

/-- Boris opens a chat with Anna, and she is listed first: she has the lower id. -/
theorem memberIds_borisOpens : memberIds borisOpens.2.tables 1 = [1, 2] := by
  have hrows : (borisOpens.2.tables.members.filter fun m => m.chatId = 1) =
      [⟨1, 2, ⟨2, 0⟩⟩, ⟨1, 1, ⟨2, 0⟩⟩] := rfl
  have horder : SortKey.ordered .asc (.moment ⟨2, 0⟩, 2) (.moment ⟨2, 0⟩, 1) = false := by decide
  unfold memberIds
  rw [hrows]
  simp [sortRows, List.mergeSort, horder]

/-- Both are told of the other order. -/
theorem borisChat_is_read_in_order : borisOpens = (.ok borisChat, borisOpens.2) ∧ borisChat.memberIds = [2, 1] ∧
    ∀ userId ∈ [1, 2], IsRead borisOpens.2 userId ⟨borisChat.chat, [1, 2]⟩ := by
  have hopens : borisOpens = (.ok borisChat, borisOpens.2) := rfl
  have hsound : Sound borisOpens.2.tables := sound_of_create (isSound_after kitten) hopens
  have hchat : borisChat.chat ∈ borisOpens.2.tables.chats := List.mem_cons_self
  refine ⟨hopens, rfl, fun userId hmem => ?_⟩
  rw [← memberIds_borisOpens] at hmem ⊢
  exact isRead_of_member hsound hchat rfl hmem

end Chats

end Fostering
