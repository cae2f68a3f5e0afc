import Fostering.Proofs.Chats.Participants
import Fostering.Proofs.Memory.Posts

/-!
# Chats in both stores

The database keeps a row for each member of a chat, and the store in memory a list of ids with the chat. What
the service does to chats it does alike in both: a chat is opened for the same members, shown to the same
users, and deleted when the same user leaves it last.

* `Simulates.addChat`, `Simulates.leaveChat`: the stores stay in step.
* `Chats.couples_create` and so on: what the service does.
-/

namespace Fostering

open Database (memberIds)

variable {users : List Int} {names : Names} {db : Database} {mem : Memory} {now now' : Instant}
  {actor i i' : Int}

/-! ## Opening a chat -/

/-- A list of ids without repetition is that of live users in both stores, or in none. -/
theorem SharesUsers.isLive_iff (h : SharesUsers users db.tables.users mem.users) {ids : List Int}
    (hids : ids.Nodup) :
    Database.countLiveUsers db.tables ids = ids.length ↔
      (ids.all fun id => mem.users.any (Memory.isLiveRow id)) = true := by
  rw [Database.countLiveUsers_eq_length_iff h.keys, List.all_eq_true]
  have hkept (id : Int) : (mem.users.any (Memory.isLiveRow id)) = true ↔
      ∃ u ∈ db.tables.users, u.entry.id = id ∧ u.entry.isLive = true := by
    rw [← h.stored id, h.kept id, List.any_eq_true]
    simp only [Memory.isLiveRow, Bool.and_eq_true, decide_eq_true_eq]
    rfl
  simp only [hkept]
  exact and_iff_right hids

/-! ## Chats in memory -/

/-- A chat in memory that somebody has left; it is deleted if nobody is left. -/
def ChatWithMembers.without (userId : Int) (now : Instant) (c : ChatWithMembers) : ChatWithMembers :=
  let memberIds := c.memberIds.filter (· ≠ userId)
  if memberIds.isEmpty then
    ⟨{ c.chat with entry.isDeleted := true, entry.deletedAt := some now }, memberIds⟩
  else { c with memberIds }

namespace ChatWithMembers

variable (c : ChatWithMembers) (userId : Int) (now : Instant)

/-- A chat without a member has all its other ones, in their order. -/
theorem memberIds_without : (c.without userId now).memberIds = c.memberIds.filter (· ≠ userId) := by
  unfold without
  dsimp only
  split <;> rfl

/-- A chat that a member leaves keeps its id. -/
theorem id_without : (c.without userId now).chat.entry.id = c.chat.entry.id := by
  unfold without
  dsimp only
  split <;> rfl

end ChatWithMembers

/-- A chat in memory whose members are live users is made with all of them. -/
theorem Memory.exec_createChat {chat : Chat} {ids : List Int} {created : ChatWithMembers}
    (h : (ids.all fun id => mem.users.any (isLiveRow id)) = true)
    (hcreated : created = ⟨{ chat with entry.id := mem.lastId + 1 }, ids⟩) :
    (createChat chat ids).exec now mem =
      (.ok created, { mem with lastId := mem.lastId + 1, chats := mem.chats ++ [created] }) := by
  have hlook := Op.exec_look (fun m : Memory => ids.all fun id => m.users.any (isLiveRow id)) now mem
  rw [h] at hlook
  subst hcreated
  exact (Op.exec_bind_ok hlook).trans (Op.exec_bind_ok (Op.exec_guard_of_true rfl _ now mem))

/-- A chat in memory is refused if one of its members is no live user. -/
theorem Memory.exec_createChat_of_missing {chat : Chat} {ids : List Int}
    (h : (ids.all fun id => mem.users.any (isLiveRow id)) = false) :
    (createChat chat ids).exec now mem = (.error (.validation "One or more chat members do not exist"), mem) := by
  have hlook := Op.exec_look (fun m : Memory => ids.all fun id => m.users.any (isLiveRow id)) now mem
  rw [h] at hlook
  exact (Op.exec_bind_ok hlook).trans (Op.exec_bind_error (Op.exec_guard_of_false rfl _ now mem))

/-- A member leaves the first live chat in memory with the id, which is the only one. -/
theorem Memory.exec_removeMember {chatId userId : Int}
    (h : (mem.chats.any fun c => isLiveChat chatId c && c.hasMember userId) = true) :
    (removeMember chatId userId).exec now mem = (.ok (), { mem with
      chats := modifyFirst (fun c => isLiveChat chatId c && c.hasMember userId) (·.without userId now)
        mem.chats }) := by
  have hlook := Op.exec_look (fun m : Memory => m.chats.any fun c =>
    isLiveChat chatId c && c.hasMember userId) now mem
  rw [h] at hlook
  exact (Op.exec_bind_ok hlook).trans (Op.exec_bind_ok (Op.exec_guard_of_true rfl _ now mem))

/-! ## Chats that are the same -/

namespace ChatWithMembers

variable {c c' : ChatWithMembers}

/-- A chat that somebody leaves last is deleted in both stores. -/
theorem Same.without (h : SameRow c.chat c'.chat) (userId : Int) {isEmpty : Bool}
    (hempty : isEmpty = (c'.memberIds.filter (· ≠ userId)).isEmpty) :
    SameRow (c.chat.left isEmpty now) (c'.without userId now').chat := by
  unfold ChatWithMembers.without Chat.left
  dsimp only
  rw [← hempty]
  cases isEmpty with
  | false => exact ⟨h.isDeleted, h.rest⟩
  | true => exact ⟨rfl, h.rest⟩

/-- The same users take part in chats that are the same. -/
theorem Same.hasMember_eq (h : c.Same c') (userId : Int) : c.hasMember userId = c'.hasMember userId := by
  unfold hasMember
  rw [Bool.eq_iff_iff, List.contains_iff_mem, List.contains_iff_mem, h.members.mem_iff]

end ChatWithMembers

namespace Chat.KeptAs

variable {t t' : Tables} {c : Chat} {c' : ChatWithMembers}

/-- Chats stay the same while their members do. -/
theorem congr (h : c.KeptAs t c') (hmembers : memberIds t' c.entry.id = memberIds t c.entry.id) :
    c.KeptAs t' c' := by
  refine ⟨h.chat, ?_⟩
  rw [hmembers]
  exact h.members

/-- Chats that a user leaves are still the same. -/
theorem left (h : c.KeptAs t c') (userId : Int) :
    (c.left (Database.isDeserted c.entry.id (Database.unjoined c.entry.id userId t)) now).KeptAs
      (Database.unjoined c.entry.id userId t) (c'.without userId now') := by
  have hmembers : (memberIds (Database.unjoined c.entry.id userId t) c.entry.id).Perm
      (c'.memberIds.filter (· ≠ userId)) :=
    (Database.perm_memberIds_unjoined t c.entry.id userId).trans (h.members.filter _)
  refine ⟨ChatWithMembers.Same.without h.chat userId ?_, ?_⟩
  · rw [Database.isDeserted_eq, hmembers.isEmpty_eq]
  · have hid : (c.left (Database.isDeserted c.entry.id (Database.unjoined c.entry.id userId t)) now).entry.id =
        c.entry.id := Chat.id_left _ _ _
    rw [ChatWithMembers.memberIds_without, hid]
    exact hmembers

end Chat.KeptAs

namespace Simulates

/-- The live chats with two ids that mean the same. -/
abbrev FoundChat (names : Names) (db : Database) (mem : Memory) (i i' : Int) (c : Chat)
    (c' : ChatWithMembers) : Prop :=
  Paired.Found names.chats Table.id (fun c => c.chat.entry.id) (Chat.KeptAs db.tables) db.tables.chats mem.chats
    (fun c => c.entry.isLive) (fun c => c.chat.entry.isLive) i i' c c'

/-- A chat of the database with its members, and the one in memory. -/
def FoundMembers (names : Names) (db : Database) (mem : Memory) (i i' : Int) (c c' : ChatWithMembers) : Prop :=
  FoundChat names db mem i i' c.chat c' ∧ c.memberIds = memberIds db.tables c.chat.entry.id

/-- Chats in which both stores found the member are the same. -/
theorem FoundMembers.same {c c' : ChatWithMembers} (h : FoundMembers names db mem i i' c c') : c.Same c' := by
  obtain ⟨chat, members⟩ := c
  obtain ⟨hfound, hmembers⟩ := h
  dsimp only at hmembers
  subst hmembers
  exact hfound.matched.2

/-- **A chat is found in both stores, or in none.** -/
theorem findChat (h : Simulates users names db mem) (hi : Refers names.chats i i') :
    Op.Couples (Refused users names) now now' (Database.findChat i)
      (Store.Chats.find i' : Op Memory ChatWithMembers) db mem
      (Op.Reads db mem (FoundMembers names db mem i i')) := by
  have hlook := Database.exec_find? (fun c : Chat => c.entry.id = i && c.entry.isLive) now db
  have hlook' := Op.exec_look (fun m : Memory => m.chats.find? (Memory.isLiveChat i')) now' mem
  have hlive (c : Chat) (c' : ChatWithMembers) (hc : Chat.KeptAs db.tables c c') :
      c.entry.isLive = c'.chat.entry.isLive := hc.chat.isLive_eq
  rcases h.chats.found_or_none hi hlive with ⟨c, c', hfound⟩ | ⟨hnone, hnone'⟩
  · have hchat : (Table.rows db.tables).find? (fun c : Chat => c.entry.id = i && c.entry.isLive) = some c :=
      hfound.first
    have hchat' : mem.chats.find? (Memory.isLiveChat i') = some c' := hfound.first'
    rw [hchat] at hlook
    rw [hchat'] at hlook'
    exact Op.couples_of_exec (Op.exec_bind_ok hlook) (Op.exec_bind_ok hlook') ⟨⟨hfound, rfl⟩, rfl, rfl⟩
  · have hchat : (Table.rows db.tables).find? (fun c : Chat => c.entry.id = i && c.entry.isLive) = none :=
      hnone
    have hchat' : mem.chats.find? (Memory.isLiveChat i') = none := hnone'
    rw [hchat] at hlook
    rw [hchat'] at hlook'
    exact Op.couples_of_error (Op.exec_bind_ok hlook) (Op.exec_bind_ok hlook') ⟨.chat hi, h⟩

/-- A chat that is opened is the same in both stores. -/
theorem addChat (h : Simulates users names db mem) {c : Chat} {c' : ChatWithMembers}
    (hid : c.entry.id = db.sequences.chats + 1) (hid' : c'.chat.entry.id = mem.lastId + 1)
    (hsame : SameRow c c'.chat) :
    Simulates users (names.addChat c.entry.id c'.chat.entry.id)
      { db with
        tables := Database.joined c.entry.id c'.memberIds now (Database.addRow c db.tables)
        sequences := { db.sequences with chats := db.sequences.chats + 1 } }
      { mem with lastId := mem.lastId + 1, chats := mem.chats ++ [c'] } := by
  let t : Tables := Database.joined c.entry.id c'.memberIds now (Database.addRow c db.tables)
  have hnew : ∀ m ∈ (Database.addRow c db.tables).members, m.chatId ≠ c.entry.id := fun m hm => by
    have hle := h.members m hm
    omega
  have hkept : Chat.KeptAs t c c' := ⟨hsame, Database.perm_memberIds_joined hnew c'.memberIds now⟩
  have hchats := h.chats.imp (S := Chat.KeptAs t) fun s hs _ hr => by
    have hne : s.entry.id ≠ c.entry.id := h.chats.unused hid s hs
    exact hr.congr (Database.memberIds_joined_of_ne hne c'.memberIds now)
  have hmembers : ∀ m ∈ t.members, m.chatId ≤ db.sequences.chats + 1 := fun m hm => by
    rcases List.mem_append.mp hm with hold | hjoined
    · exact Int.le_add_one (h.members m hold)
    · obtain ⟨userId, -, rfl⟩ := List.mem_map.mp hjoined
      exact Int.le_of_eq hid
  have hmessages := h.messages.imp (S := Message.KeptAs (names.addChat c.entry.id c'.chat.entry.id).chats)
    fun _ _ _ hr => { hr with same := { hr.same with chat := List.mem_append_left _ hr.same.chat } }
  exact
    { users := h.users
      posts := h.posts.skip
      reports := h.reports.skip
      chats := hchats.append hid hid' hkept
      members := hmembers
      messages := hmessages.skip }

/-- A chat that a member leaves stays the same in both stores. -/
theorem leaveChat (h : Simulates users names db mem) {c c' : ChatWithMembers}
    (hfound : FoundMembers names db mem i i' c c') (hactor : c.hasMember actor = true) :
    Simulates users names
      { db with
        tables := Database.putRow
          (c.chat.left (Database.isDeserted i (Database.unjoined i actor db.tables)) now)
          (Database.unjoined i actor db.tables) }
      { mem with
        chats := Memory.modifyFirst (fun s => Memory.isLiveChat i' s && s.hasMember actor)
          (·.without actor now') mem.chats } := by
  obtain ⟨rfl, -⟩ := hfound.1.key_and
  obtain ⟨hid', hlive'⟩ := hfound.1.key_and'
  let t : Tables := Database.unjoined c.chat.entry.id actor db.tables
  let left : Chat := c.chat.left (Database.isDeserted c.chat.entry.id t) now
  have hleft : Table.id left = Table.id c.chat := Chat.id_left _ _ _
  have hothers (s : Chat) (s' : ChatWithMembers)
      (hs : Match names.chats Table.id (fun c => c.chat.entry.id) (Chat.KeptAs db.tables) s s')
      (hne : s.entry.id ≠ c.chat.entry.id) : s.KeptAs t s' :=
    hs.2.congr (Database.memberIds_unjoined_of_ne hne)
  have hisIt : (Memory.isLiveChat i' c' && c'.hasMember actor) = true := by
    have hmember := (hfound.same.hasMember_eq actor).symm.trans hactor
    have hlive : Memory.isLiveChat i' c' = true := Bool.and_eq_true_iff.mpr ⟨decide_eq_true hid', hlive'⟩
    rw [hlive, hmember]
    rfl
  -- the fake changes the first chat that matches, and ids being distinct there is no other
  have honly : ∀ s ∈ mem.chats, (Memory.isLiveChat i' s && s.hasMember actor) = true →
      s.chat.entry.id = i' := fun s _ hs =>
    of_decide_eq_true (Bool.and_eq_true_iff.mp (Bool.and_eq_true_iff.mp hs).1).1
  have hchats := h.chats.change hfound.1 (f := fun _ => left) hisIt honly hleft
    (ChatWithMembers.id_without c' actor now') (hfound.1.matched.2.left actor) hothers
  have hmembers : ∀ m ∈ t.members, m.chatId ≤ db.sequences.chats :=
    fun m hm => h.members m (List.mem_filter.mp hm).1
  change Simulates users names { db with tables := Database.putRow left t } _
  unfold Database.putRow
  rw [hleft]
  exact { h with chats := hchats, members := hmembers }

end Simulates

namespace Chats

/-- Both stores make alike chats, or refuse for alike causes. -/
theorem couples_create (h : Simulates users names db mem) (hactor : actor ∈ users) {request : CreateChat}
    (hplain : Request.OfPlain request) (hnow : now.isStorable = true) :
    Op.Couples (Refused users names) now now' (create actor request : Op Database ChatWithMembers)
      (create actor request : Op Memory ChatWithMembers) db mem fun c c' db' mem' =>
        c.Alike (names.addChat c.chat.entry.id c'.chat.entry.id) c' ∧
          Simulates users (names.addChat c.chat.entry.id c'.chat.entry.id) db' mem' := by
  refine .after ?_ (exec_stamped _ now db) (exec_stamped _ now' mem)
  let given : Chat := HasEntry.modifyEntry (·.stamped now) (request.toChat actor)
  let given' : Chat := HasEntry.modifyEntry (·.stamped now') (request.toChat actor)
  let ids : List Int := request.membersWith actor
  change Op.Couples _ now now' (Database.createChat given ids) (Memory.createChat given' ids) db mem _
  have hlive := h.users.isLive_iff (request.nodup_membersWith actor)
  cases hall : ids.all fun id => mem.users.any (Memory.isLiveRow id) with
  | false =>
      have hcount : Database.countLiveUsers db.tables ids ≠ ids.length :=
        mt hlive.mp (ne_true_of_eq_false hall)
      exact Op.couples_of_error (Database.exec_createChat_of_missing now db hcount)
        (Memory.exec_createChat_of_missing hall) ⟨.same nofun, h⟩
  | true =>
      let stored : Chat := Table.setId (db.sequences.chats + 1) (Database.draftChat given)
      let kept : ChatWithMembers := ⟨{ given' with entry.id := mem.lastId + 1 }, ids⟩
      have hid : stored.entry.id = db.sequences.chats + 1 := rfl
      have hid' : kept.chat.entry.id = mem.lastId + 1 := rfl
      have hsame : SameRow stored kept.chat := ⟨rfl, rfl⟩
      have hstorable : Schema.isStorable (Database.draftChat given) = true :=
        isStorable_of (CreateChat.hasStorableTexts hplain actor) (isStorable_new hnow rfl)
      have hinsertable : Database.IsInsertable db.tables stored :=
        { holds := rfl
          clash := rfl
          unused := h.chats.unused hid
          orphan := h.users.missingUser?_eq_none hactor _ _ }
      have hinsert := Database.insert_of_isInsertable _ now hstorable rfl hinsertable
      have hmem : (stored.entry.id, kept.chat.entry.id) ∈
          (names.addChat stored.entry.id kept.chat.entry.id).chats :=
        List.mem_append_right _ (List.mem_singleton_self _)
      exact Op.couples_of_exec (Database.createChat_of_insert now db (hlive.mpr hall) hinsert)
        (Memory.exec_createChat hall rfl) ⟨⟨hmem, hsame, .refl _⟩, h.addChat hid hid' hsame⟩

/-- Both stores show a chat to its members only. -/
theorem couples_findAsMember (h : Simulates users names db mem) (hi : Refers names.chats i i') :
    Op.Couples (Refused users names) now now' (findAsMember actor i : Op Database ChatWithMembers)
      (findAsMember actor i' : Op Memory ChatWithMembers) db mem
      (Op.Reads db mem fun c c' => Simulates.FoundMembers names db mem i i' c c' ∧ c.hasMember actor = true) := by
  refine (h.findChat hi).bind_reads fun c c' hfound => ?_
  have hmember := hfound.same.hasMember_eq actor
  refine (Op.couples_guard hmember ⟨.same nofun, h⟩).bind_reads fun _ _ hactor => ?_
  exact Op.couples_pure ⟨⟨hfound, hactor⟩, rfl, rfl⟩

/-- A member leaves a chat in both stores, or in none. -/
theorem couples_leave (h : Simulates users names db mem) (hi : Refers names.chats i i') :
    Op.Couples (Refused users names) now now' (leave actor i : Op Database Unit)
      (leave actor i' : Op Memory Unit) db mem fun _ _ db' mem' => Simulates users names db' mem' := by
  refine (couples_findAsMember h hi).bind_reads fun c c' ⟨hfound, hactor⟩ => ?_
  have hmember : Database.isMember db.tables i actor = true := by
    rw [Database.isMember_iff, ← hfound.1.key_and.1]
    unfold ChatWithMembers.hasMember at hactor
    rwa [hfound.2, List.contains_iff_mem] at hactor
  have hany : (mem.chats.any fun s => Memory.isLiveChat i' s && s.hasMember actor) = true :=
    (h.chats.any_eq hfound.1 (·.hasMember actor)).trans ((hfound.same.hasMember_eq actor).symm.trans hactor)
  exact Op.couples_of_exec (Database.removeMember_of_find now db hfound.1.first hmember)
    (Memory.exec_removeMember hany) (h.leaveChat hfound hactor)

/-- Both stores show a member the same chat. -/
theorem couples_get (h : Simulates users names db mem) (hi : Refers names.chats i i') :
    Op.Couples (Refused users names) now now' (get actor i : Op Database ChatWithMembers)
      (get actor i' : Op Memory ChatWithMembers) db mem fun c c' db' mem' =>
        c.Alike names c' ∧ Simulates users names db' mem' := by
  refine (couples_findAsMember h hi).mono ?_
  rintro c c' _ _ ⟨⟨hfound, -⟩, rfl, rfl⟩
  exact ⟨⟨hfound.1.matched.1, hfound.same⟩, h⟩

/-- The chats of a user are the same in both stores. -/
theorem couples_list (h : Simulates users names db mem) (actor : Int) :
    Op.CouplesPages (Refused users names) now now' Page.slice Page.slice
      (fun page => (list actor page : Op Database (List ChatWithMembers)))
      (fun page => (list actor page : Op Memory (List ChatWithMembers))) db mem
      fun cs cs' db' mem' => ListsAlike (ChatWithMembers.Alike names) cs cs' ∧ Simulates users names db' mem' := by
  let withMembers (c : Chat) : ChatWithMembers := ⟨c, memberIds db.tables c.entry.id⟩
  let chats : List Chat :=
    db.tables.chats.filter fun c => c.entry.isLive && Database.isMember db.tables c.entry.id actor
  let sorted : List Chat := sortRows .desc (fun c => .moment c.entry.updatedAt) HasEntry.id chats
  have hpage (page : Page) : (Database.listChats actor page).exec now db =
      (.ok (page.slice (sorted.map withMembers)), db) := by
    rw [Page.slice_map]
    rfl
  have hmatched : List.Forall₂ (Match names.chats Table.id (fun c => c.chat.entry.id) (Chat.KeptAs db.tables)) chats
      (mem.chats.filter fun c => c.chat.entry.isLive && c.hasMember actor) := by
    refine h.chats.matched.filter fun c c' hc => ?_
    have hmember : Database.isMember db.tables c.entry.id actor = (withMembers c).hasMember actor := by
      unfold ChatWithMembers.hasMember
      rw [Bool.eq_iff_iff, Database.isMember_iff, List.contains_iff_mem]
    have hlive : c.entry.isLive = c'.chat.entry.isLive := hc.2.chat.isLive_eq
    rw [hmember, hlive, hc.2.hasMember_eq actor]
  have hperm : (sorted.map withMembers).Perm (chats.map withMembers) :=
    (perm_sortRows .desc _ HasEntry.id chats).map withMembers
  have halike : List.Forall₂ (ChatWithMembers.Alike names) (chats.map withMembers) _ :=
    List.forall₂_map_left_iff.mpr hmatched
  exact Op.couplesPages_of_exec hpage (fun _ => rfl) ⟨⟨_, hperm, halike⟩, h⟩

end Chats

end Fostering
