import Mathlib.Data.Finset.Basic
import Mathlib.Data.Finset.Dedup
import Fostering.Proofs.Chats.Membership
import Fostering.Proofs.Chats.Roster
import Fostering.Proofs.Listing.Precedence

/-!
# Who takes part in chats

Only two kinds of requests change who takes part in which chats. One opens a chat, for its caller and for
whomever it names; the other lets its caller out of a chat, and deletes the chat if nobody is left.

* `perm_memberIds_joined`, `perm_memberIds_unjoined`: the members of a chat after somebody comes or leaves.
* `participants_joined`, `participants_unjoined`: who takes part in which chats then.
* `chatsFollow_serve`: what a request does to the chats and to who takes part in them.
-/

namespace Fostering

namespace Database

variable {t : Tables} {chatId other userId : Int} {now : Instant}

/-! ## Members -/

/-- The list of members holds each membership of the chat once. -/
theorem perm_memberIds (t : Tables) (chatId : Int) :
    (memberIds t chatId).Perm ((t.members.filter fun m => m.chatId = chatId).map Membership.userId) :=
  (perm_sortRows .asc _ Membership.userId _).map Membership.userId

/-- The members of a chat depend on the rows about it only. -/
theorem memberIds_congr {t' : Tables} (h : (t'.members.filter fun m => m.chatId = chatId) =
    t.members.filter fun m => m.chatId = chatId) : memberIds t' chatId = memberIds t chatId := by
  unfold memberIds
  rw [h]

/-- The rows about a new chat are those of who comes into it. -/
theorem filter_members_joined (hnew : ∀ m ∈ t.members, m.chatId ≠ chatId) (ids : List Int) (now : Instant) :
    ((joined chatId ids now t).members.filter fun m => m.chatId = chatId) =
      ids.map fun userId => ⟨chatId, userId, now.stored⟩ := by
  have hold : (t.members.filter fun m => m.chatId = chatId) = [] :=
    List.filter_eq_nil_iff.mpr fun m hm => by simpa using hnew m hm
  have hjoined : ((ids.map fun userId => (⟨chatId, userId, now.stored⟩ : Membership)).filter
      fun m => m.chatId = chatId) = ids.map fun userId => ⟨chatId, userId, now.stored⟩ := by
    refine List.filter_eq_self.mpr fun m hm => ?_
    obtain ⟨userId, -, rfl⟩ := List.mem_map.mp hm
    exact decide_eq_true rfl
  unfold joined
  rw [List.filter_append, hold, hjoined, List.nil_append]

/-- Who comes into a new chat is in it. -/
theorem perm_memberIds_joined (hnew : ∀ m ∈ t.members, m.chatId ≠ chatId) (ids : List Int) (now : Instant) :
    (memberIds (joined chatId ids now t) chatId).Perm ids := by
  refine (perm_memberIds _ chatId).trans ?_
  rw [filter_members_joined hnew, List.map_map]
  exact .of_eq (List.map_id ids)

/-- Those who come into a new chat come at once, and are listed by their ids. -/
theorem pairwise_memberIds_joined (hnew : ∀ m ∈ t.members, m.chatId ≠ chatId) {ids : List Int} (hids : ids.Nodup)
    (now : Instant) : (memberIds (joined chatId ids now t) chatId).Pairwise (· < ·) := by
  let rows : List Membership := ids.map fun userId => ⟨chatId, userId, now.stored⟩
  have hrows : (rows.map Membership.userId).Nodup := by
    rw [List.map_map]
    exact (List.map_id ids).symm ▸ hids
  have hat {m : Membership} (hm : m ∈ sortRows .asc (fun m => .moment m.joinedAt) Membership.userId rows) :
      m.joinedAt = now.stored := by
    obtain ⟨userId, -, rfl⟩ := List.mem_map.mp ((mem_sortRows _ _ _ _).mp hm)
    rfl
  have hsorted := pairwise_precedes_sortRows (fun m : Membership => .moment m.joinedAt) .asc hrows
  unfold memberIds
  rw [filter_members_joined hnew]
  refine List.pairwise_map.mpr (hsorted.imp_of_mem fun hm hm' h => ?_)
  rw [hat hm, hat hm'] at h
  exact h.lt_of_same

/-- Who comes into a chat comes into no other. -/
theorem memberIds_joined_of_ne (hother : other ≠ chatId) (ids : List Int) (now : Instant) :
    memberIds (joined chatId ids now t) other = memberIds t other := by
  refine memberIds_congr ?_
  have hnone : ((ids.map fun userId => (⟨chatId, userId, now.stored⟩ : Membership)).filter
      fun m => m.chatId = other) = [] := by
    refine List.filter_eq_nil_iff.mpr fun m hm => ?_
    obtain ⟨userId, -, rfl⟩ := List.mem_map.mp hm
    simpa using hother.symm
  unfold joined
  rw [List.filter_append, hnone, List.append_nil]

/-- Who leaves a chat is not in it. -/
theorem perm_memberIds_unjoined (t : Tables) (chatId userId : Int) :
    (memberIds (unjoined chatId userId t) chatId).Perm ((memberIds t chatId).filter (· ≠ userId)) := by
  refine (perm_memberIds _ chatId).trans (.trans (.of_eq ?_) ((perm_memberIds t chatId).filter _).symm)
  unfold unjoined
  rw [List.filter_map, List.filter_filter, List.filter_filter]
  refine congrArg _ (List.filter_congr fun m _ => ?_)
  by_cases hchat : m.chatId = chatId <;> simp [hchat]

/-- Who leaves a chat leaves no other. -/
theorem memberIds_unjoined_of_ne (hother : other ≠ chatId) :
    memberIds (unjoined chatId userId t) other = memberIds t other := by
  refine memberIds_congr ?_
  unfold unjoined
  rw [List.filter_filter]
  refine List.filter_congr fun m _ => ?_
  by_cases hchat : m.chatId = other
  · simp [hchat, hother]
  · simp [hchat]

/-- A chat is deserted if nobody is in the list of members. -/
theorem isDeserted_eq (t : Tables) (chatId : Int) : isDeserted chatId t = (memberIds t chatId).isEmpty := by
  rw [(perm_memberIds t chatId).isEmpty_eq, List.isEmpty_map, isDeserted, Bool.eq_iff_iff]
  simp

/-! ## Who takes part -/

/-- The users who take part in a chat. -/
def participants (t : Tables) (chatId : Int) : Finset Int := (memberIds t chatId).toFinset

/-- Whoever has a membership takes part. -/
theorem mem_participants :
    userId ∈ participants t chatId ↔ ∃ m ∈ t.members, m.chatId = chatId ∧ m.userId = userId := by
  rw [participants, List.mem_toFinset, mem_memberIds]

/-- Who takes part is seen from the memberships alone. -/
theorem participants_of_agrees {t' : Tables} (h : TableName.members.Agrees t t') :
    participants t' = participants t := by
  have hmembers : t'.members = t.members := h
  funext chatId
  ext userId
  rw [mem_participants, mem_participants, hmembers]

/-- A chat is deserted if nobody takes part. -/
theorem isDeserted_iff : isDeserted chatId t = true ↔ participants t chatId = ∅ := by
  simp only [isDeserted, Bool.not_eq_true', List.any_eq_false, decide_eq_true_eq,
    Finset.eq_empty_iff_forall_notMem, mem_participants]
  constructor
  · rintro h userId ⟨m, hm, hchat, -⟩
    exact h m hm hchat
  · rintro h m hm hchat
    exact h m.userId ⟨m, hm, hchat, rfl⟩

/-- Who comes into a new chat is in no other. -/
theorem participants_joined (hnew : ∀ m ∈ t.members, m.chatId ≠ chatId) (chat : Chat) (users : List Int)
    (now : Instant) :
    participants (joined chatId users now (addRow chat t)) =
      Function.update (participants t) chatId users.toFinset := by
  funext other
  by_cases hother : other = chatId
  · subst hother
    rw [Function.update_self]
    exact List.toFinset_eq_of_perm _ _ (perm_memberIds_joined (t := addRow chat t) hnew users now)
  · rw [Function.update_of_ne hother]
    exact congrArg List.toFinset (memberIds_joined_of_ne (t := addRow chat t) hother users now)

/-- Who leaves a chat leaves no other. -/
theorem participants_unjoined (chatId userId : Int) :
    participants (unjoined chatId userId t) =
      Function.update (participants t) chatId ((participants t chatId).erase userId) := by
  funext other
  by_cases hother : other = chatId
  · subst hother
    rw [Function.update_self, participants, List.toFinset_eq_of_perm _ _ (perm_memberIds_unjoined t other userId)]
    ext user
    simp [participants, and_comm]
  · rw [Function.update_of_ne hother]
    exact congrArg List.toFinset (memberIds_unjoined_of_ne hother)

end Database

/-! ## Requests -/

/-- A caller makes a request to open a chat. -/
def Arrival.Opens (a : Arrival) (config : Config) (caller : Caller) (request : CreateChat) : Prop :=
  ∃ id?, Endpoint.find a.incoming = .endpoint .createChat id? ∧
    (a.exchange config id?).caller = .ok caller ∧
    (a.exchange config id?).body CreateChat = .ok request

namespace Database

variable {config : Config} {db : Database} {a : Arrival} {t : Tables} {chatId userId : Int}

/-- A chat is opened, for a user and for those whom the request names. -/
structure OpensChat (t t' : Tables) (userId : Int) (request : CreateChat) (chat : Chat) : Prop where
  fresh : chat.entry.id ∉ ids Chat t
  live : chat.entry.isLive = true
  creator : chat.createdBy = userId
  chats : t'.chats = t.chats ++ [chat]
  participants : participants t' = Function.update (Database.participants t) chat.entry.id
    ({userId} ∪ request.memberIds.toFinset)

/-- No user takes part in a chat that is not there. -/
theorem Sound.chatId_ne (hsound : Sound t) (hunused : chatId ∉ ids Chat t) :
    ∀ m ∈ t.members, m.chatId ≠ chatId := by
  rintro m hm rfl
  have hmembers : TidyMembers t := hsound .members
  exact hunused (hmembers.chats m hm)

/-- What is done to open a chat. -/
theorem opensChat_joined (hsound : Sound t) {given : Chat} {id : Int} {request : CreateChat}
    (hnew : IsInsertable t (Table.setId id (draftChat given))) (hcreator : given.createdBy = userId)
    (now : Instant) :
    OpensChat t (joined id (request.membersWith userId) now (addRow (Table.setId id (draftChat given)) t))
      userId request (Table.setId id (draftChat given)) := by
  have hunused : id ∉ ids Chat t := by
    intro hused
    obtain ⟨c, hc, hid⟩ := List.mem_map.mp hused
    exact hnew.unused c hc hid
  constructor
  case fresh => exact hunused
  case live => rfl
  case creator => exact hcreator
  case chats => rfl
  case participants =>
    rw [participants_joined (hsound.chatId_ne hunused), request.toFinset_membersWith]
    rfl

/-- Who takes part in a new chat. -/
theorem OpensChat.mem_memberIds {t' : Tables} {request : CreateChat} {chat : Chat}
    (h : OpensChat t t' userId request chat) {id : Int} :
    id ∈ memberIds t' chat.entry.id ↔ id = userId ∨ id ∈ request.memberIds := by
  rw [← List.mem_toFinset]
  change id ∈ Database.participants t' chat.entry.id ↔ _
  rw [h.participants, Function.update_self, Finset.mem_union, Finset.mem_singleton, List.mem_toFinset]

/-- A user leaves a chat, which is deleted if it was the last one. -/
structure LeavesChat (now : Instant) (t t' : Tables) (userId : Int) (chat : Chat) : Prop where
  mem : chat ∈ t.chats
  live : chat.entry.isLive = true
  member : userId ∈ participants t chat.entry.id
  chats : t'.chats = t.chats.map fun c => if c.entry.id = chat.entry.id then
    chat.left (decide (Database.participants t chat.entry.id = {userId})) now else c
  participants : participants t' = Function.update (Database.participants t) chat.entry.id
    ((Database.participants t chat.entry.id).erase userId)

/-- What a request does to the chats: one that is answered as a success opens a chat, or lets its caller
out of one; every other leaves the chats alone and those who take part. -/
structure ChatsFollow (config : Config) (db : Database) (a : Arrival) : Prop where
  opening : ∀ caller request, a.Opens config caller request → (db.reply config a).status < 400 →
    ∃ chat, OpensChat db.tables (db.serve config a).tables caller.userId request chat
  leaving : ∀ caller chatId, a.Asks config .leaveChat caller chatId →
    (db.reply config a).status < 400 →
    ∃ chat : Chat, chat.entry.id = chatId ∧
      LeavesChat a.now db.tables (db.serve config a).tables caller.userId chat
  staying : (∀ caller request, a.Opens config caller request → 400 ≤ (db.reply config a).status) →
    (∀ caller chatId, a.Asks config .leaveChat caller chatId → 400 ≤ (db.reply config a).status) →
    (db.serve config a).tables.chats = db.tables.chats ∧
      participants (db.serve config a).tables = participants db.tables

end Database

namespace Exchange.Writes

variable {x : Exchange} {db : Database} {call : Store.Call}

/-- A request to open a chat makes the call that creates it, with the caller and those who are named. -/
theorem of_createChat (h : x.Writes db .createChat call) :
    ∃ caller request, x.caller = .ok caller ∧ x.body CreateChat = .ok request ∧
      call = .createChat (HasEntry.modifyEntry (·.stamped x.now) (request.toChat caller.userId))
        (request.membersWith caller.userId) := by
  cases h with
  | createChat caller request asks body => exact ⟨caller, request, asks, body, rfl⟩
  | onBoard _ _ h => cases h

/-- A request to leave a chat makes the call that removes the caller. -/
theorem of_leaveChat (h : x.Writes db .leaveChat call) :
    ∃ caller chatId, x.caller = .ok caller ∧ x.id = .ok chatId ∧
      call = .removeMember chatId caller.userId := by
  cases h with
  | leaveChat caller chatId asks path part => exact ⟨caller, chatId, asks, path, rfl⟩
  | onBoard _ _ h => cases h

end Exchange.Writes

namespace Reply

variable {α : Type} {reply : Reply} {result : Except Error α}

/-- A reply that tells of a refusal has the status of one. -/
theorem Tells.le_status {cause : Error} (h : reply.Tells (.error cause : Except Error α)) :
    400 ≤ reply.status := by
  have heq : reply.status = cause.status := h
  rw [heq]
  exact cause.le_status

/-- A reply that tells of a result has the status of a success. -/
theorem Tells.status_lt {a : α} (h : reply.Tells (.ok a)) : reply.status < 400 := by
  have hmem : reply.status ∈ [200, 201, 204] := h
  simp only [List.mem_cons, List.not_mem_nil, or_false] at hmem
  omega

end Reply

namespace Database

variable (config : Config) (db : Database) {a : Arrival}

/-- A request to open a chat is turned down, or it opens one. -/
theorem serve_of_createChat (hsound : Sound db.tables) {id? : Option (String × String)}
    (hfind : Endpoint.find a.incoming = .endpoint .createChat id?) :
    400 ≤ (db.reply config a).status ∧ (db.serve config a).tables = db.tables ∨
      (db.reply config a).status < 400 ∧ ∃ caller request,
        (a.exchange config id?).caller = .ok caller ∧
        (a.exchange config id?).body CreateChat = .ok request ∧
        ∃ chat, OpensChat db.tables (db.serve config a).tables caller.userId request chat := by
  rcases serve_of_writing config db a hfind (by decide) (by decide) with
    ⟨hfault, hsame⟩ | ⟨call, hwrites, htells, hserve⟩
  · exact .inl ⟨hfault.1, congrArg Database.tables hsame⟩
  obtain ⟨caller, request, hcaller, hbody, rfl⟩ := hwrites.of_createChat
  let given : Chat := HasEntry.modifyEntry (·.stamped a.now) (request.toChat caller.userId)
  let users : List Int := request.membersWith caller.userId
  change (db.reply config a).Tells ((createChat given users).exec a.now db).1 at htells
  change db.serve config a = ((createChat given users).exec a.now db).2 at hserve
  rcases createChat_cases a.now db given users with
    ⟨cause, db', hexec, htables⟩ | ⟨-, id, db', hnew, hexec, htables⟩
  · rw [hexec] at htells hserve
    exact .inl ⟨htells.le_status, by rw [hserve, htables]⟩
  rw [hexec] at htells hserve
  refine .inr ⟨htells.status_lt, caller, request, hcaller, hbody, Table.setId id (draftChat given), ?_⟩
  rw [hserve, htables]
  exact opensChat_joined hsound hnew rfl a.now

/-- A request to leave a chat is turned down, or it lets its caller out. -/
theorem serve_of_leaveChat {id? : Option (String × String)}
    (hfind : Endpoint.find a.incoming = .endpoint .leaveChat id?) :
    400 ≤ (db.reply config a).status ∧ (db.serve config a).tables = db.tables ∨
      (db.reply config a).status < 400 ∧ ∃ caller chatId,
        (a.exchange config id?).caller = .ok caller ∧ (a.exchange config id?).id = .ok chatId ∧
        ∃ chat : Chat, chat.entry.id = chatId ∧
          LeavesChat a.now db.tables (db.serve config a).tables caller.userId chat := by
  rcases serve_of_writing config db a hfind (by decide) (by decide) with
    ⟨hfault, hsame⟩ | ⟨call, hwrites, htells, hserve⟩
  · exact .inl ⟨hfault.1, congrArg Database.tables hsame⟩
  obtain ⟨caller, chatId, hcaller, hpath, rfl⟩ := hwrites.of_leaveChat
  change (db.reply config a).Tells ((removeMember chatId caller.userId).exec a.now db).1 at htells
  change db.serve config a = ((removeMember chatId caller.userId).exec a.now db).2 at hserve
  rcases removeMember_cases a.now db chatId caller.userId with
    ⟨cause, db', hexec, htables⟩ | ⟨chat, hmem, rfl, hlive, hmember, hexec⟩
  · rw [hexec] at htells hserve
    exact .inl ⟨htells.le_status, by rw [hserve, htables]⟩
  rw [hexec] at htells hserve
  have hpart : caller.userId ∈ participants db.tables chat.entry.id :=
    List.mem_toFinset.mpr (isMember_iff.mp hmember)
  have hunjoined := participants_unjoined (t := db.tables) chat.entry.id caller.userId
  -- the chat is deleted exactly if its last member has left
  have hdeserted : isDeserted chat.entry.id (unjoined chat.entry.id caller.userId db.tables) =
      decide (participants db.tables chat.entry.id = {caller.userId}) := by
    rw [Bool.eq_iff_iff, isDeserted_iff, hunjoined, Function.update_self, decide_eq_true_eq,
      Finset.erase_eq_empty_iff]
    exact or_iff_right (Finset.ne_empty_of_mem hpart)
  refine .inr ⟨htells.status_lt, caller, chat.entry.id, hcaller, hpath, chat, rfl, ?_⟩
  constructor
  case mem => exact hmem
  case live => exact hlive
  case member => exact hpart
  case chats =>
    rw [hserve, hdeserted]
    change (db.tables.chats.map fun c => if c.entry.id = (chat.left _ a.now).entry.id then _ else c) = _
    rw [chat.id_left]
  case participants =>
    rw [hserve]
    exact hunjoined

/-- Every other request leaves the chats alone. -/
theorem serve_of_others (h : ∀ endpoint id?, Endpoint.find a.incoming = .endpoint endpoint id? →
    endpoint ≠ .createChat ∧ endpoint ≠ .leaveChat) :
    (db.serve config a).tables.chats = db.tables.chats ∧
      participants (db.serve config a).tables = participants db.tables := by
  rcases App.serve_cases config a.random a.incoming a.now db with
    heq | ⟨endpoint, id?, action, hfind, hplan, heq⟩
  · have hserve : db.serve config a = db := heq
    rw [hserve]
    exact ⟨rfl, rfl⟩
  · obtain ⟨hopens, hleaves⟩ := h endpoint id? hfind
    have hframe := onlyChanges_of_writesOnly
      ((a.exchange config id?).plan_writesOnly endpoint action hplan) a.now db
    have hspared : TableName.chats ∉ endpoint.writes ∧ TableName.members ∉ endpoint.writes := by
      cases endpoint with
      | createChat => exact absurd rfl hopens
      | leaveChat => exact absurd rfl hleaves
      | _ => exact ⟨by decide, by decide⟩
    have hserve : db.serve config a = (action.exec a.now db).2 := heq
    rw [hserve]
    exact ⟨hframe .chats hspared.1, participants_of_agrees (hframe .members hspared.2)⟩

/-- **What a request does to the chats.** -/
theorem chatsFollow_serve (hsound : Sound db.tables) (a : Arrival) :
    ChatsFollow config db a where
  opening caller request := by
    rintro ⟨id?, hfind, hcaller, hbody⟩ hstatus
    rcases serve_of_createChat config db hsound hfind with
      ⟨hfailed, -⟩ | ⟨-, caller', request', hcaller', hbody', h⟩
    · omega
    · obtain rfl : caller' = caller := Except.ok.inj (hcaller'.symm.trans hcaller)
      obtain rfl : request' = request := Except.ok.inj (hbody'.symm.trans hbody)
      exact h
  leaving caller chatId := by
    rintro ⟨id?, hfind, hcaller, hpath⟩ hstatus
    rcases serve_of_leaveChat config db hfind with
      ⟨hfailed, -⟩ | ⟨-, caller', chatId', hcaller', hpath', h⟩
    · omega
    · obtain rfl : caller' = caller := Except.ok.inj (hcaller'.symm.trans hcaller)
      obtain rfl : chatId' = chatId := Except.ok.inj (hpath'.symm.trans hpath)
      exact h
  staying hopens hleaves := by
    by_cases hcreate : ∃ id?, Endpoint.find a.incoming = .endpoint .createChat id?
    · obtain ⟨id?, hfind⟩ := hcreate
      rcases serve_of_createChat config db hsound hfind with
        ⟨-, hsame⟩ | ⟨hstatus, caller, request, hcaller, hbody, -⟩
      · rw [hsame]
        exact ⟨rfl, rfl⟩
      · exact absurd hstatus (Nat.not_lt.mpr (hopens caller request ⟨id?, hfind, hcaller, hbody⟩))
    by_cases hleave : ∃ id?, Endpoint.find a.incoming = .endpoint .leaveChat id?
    · obtain ⟨id?, hfind⟩ := hleave
      rcases serve_of_leaveChat config db hfind with
        ⟨-, hsame⟩ | ⟨hstatus, caller, chatId, hcaller, hpath, -⟩
      · rw [hsame]
        exact ⟨rfl, rfl⟩
      · exact absurd hstatus (Nat.not_lt.mpr (hleaves caller chatId ⟨id?, hfind, hcaller, hpath⟩))
    · refine serve_of_others config db fun endpoint id? hfind => ⟨?_, ?_⟩
      · rintro rfl
        exact hcreate ⟨id?, hfind⟩
      · rintro rfl
        exact hleave ⟨id?, hfind⟩

end Database

end Fostering
