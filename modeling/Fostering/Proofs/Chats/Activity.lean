import Fostering.Proofs.Chats.Lifecycle
import Fostering.Proofs.Chats.Opening

/-!
# Activity in chats

Chats are opened, members leave them, and messages are written in them (`Activity`). A list of chats goes
by the rows of the chats, and only the first two change a row. So the chats that were opened or left last
come first, and whoever writes in a chat does not bring it up (`Chats.lists_by_change`).

* `Activity.exists_touched`: a request touches one chat at most.
* `Activity.lastOf`: when something happened to a chat last, told beside a run.
* `Activity.exists_lastOf_changes`: a chat is dated with its last change.
* `Activity.eq_of_lastOf`: under a clock that goes on, no two chats were active last at the same time.
-/

namespace Fostering

open Database
open SortKey (Precedes)

/-! ## What happens to a chat -/

/-- Something that happens to a chat. -/
inductive Activity where
  | opening
  | leaving
  | writing
  deriving DecidableEq

namespace Activity

variable {t t' : Tables} {chatId userId : Int} {now : Instant} {request : CreateChat} {chat : Chat}

/-- It has happened to the chat, as the tables tell. -/
def Happens (chatId : Int) (t t' : Tables) : Activity → Prop
  | opening => chatId ∉ ids Chat t ∧ chatId ∈ ids Chat t'
  | leaving => ∃ m ∈ t.members, m.chatId = chatId ∧ isMember t' chatId m.userId = false
  | writing => ∃ m ∈ t'.messages, m.chatId = chatId ∧ m.entry.id ∉ ids Message t

instance (chatId : Int) (t t' : Tables) : (kind : Activity) → Decidable (kind.Happens chatId t t')
  | opening => inferInstanceAs (Decidable (_ ∧ _))
  | leaving => inferInstanceAs (Decidable (∃ m ∈ t.members, _))
  | writing => inferInstanceAs (Decidable (∃ m ∈ t'.messages, _))

/-- Every kind of activity. -/
def all : List Activity := [opening, leaving, writing]

/-- What changes the row of the chat. -/
def changes : List Activity := [opening, leaving]

/-- One of these kinds of activity has happened to the chat. -/
def Touches (kinds : List Activity) (chatId : Int) (t t' : Tables) : Prop :=
  ∃ kind ∈ kinds, kind.Happens chatId t t'

instance (kinds : List Activity) (chatId : Int) (t t' : Tables) : Decidable (Touches kinds chatId t t') :=
  inferInstanceAs (Decidable (∃ kind ∈ kinds, _))

/-- A chat changes if it is opened or somebody leaves it. -/
theorem touches_changes_iff :
    Touches changes chatId t t' ↔ opening.Happens chatId t t' ∨ leaving.Happens chatId t t' := by
  simp [Touches, changes]

/-- Somebody leaves a chat exactly if those who take part are not all among those who do later. -/
theorem leaving_iff : leaving.Happens chatId t t' ↔ ¬participants t chatId ⊆ participants t' chatId := by
  simp only [Happens, Finset.not_subset, mem_participants, ← Bool.not_eq_true, isMember_iff, mem_memberIds]
  constructor
  · rintro ⟨m, hm, hchat, hgone⟩
    exact ⟨m.userId, ⟨m, hm, hchat, rfl⟩, hgone⟩
  · rintro ⟨userId, ⟨m, hm, hchat, rfl⟩, hgone⟩
    exact ⟨m, hm, hchat, hgone⟩

/-- Where no chat is added, none is opened. -/
theorem not_opening_of_ids (hids : ids Chat t' = ids Chat t) : ¬opening.Happens chatId t t' := by
  rintro ⟨hnew, hold⟩
  exact hnew (hids ▸ hold)

/-- A chat that is opened is the one that changes. -/
theorem touches_of_opens (h : OpensChat t t' userId request chat) :
    Touches changes chatId t t' ↔ chatId = chat.entry.id := by
  rw [touches_changes_iff]
  constructor
  · rintro (⟨hnew, hopened⟩ | hgone)
    · rw [h.ids_eq, List.mem_append, List.mem_singleton] at hopened
      exact hopened.resolve_left hnew
    · by_contra hid
      rw [leaving_iff, h.participants, Function.update_of_ne hid] at hgone
      exact hgone (Finset.Subset.refl _)
  · rintro rfl
    refine .inl ⟨h.fresh, ?_⟩
    rw [h.ids_eq]
    exact List.mem_append_right _ (List.mem_singleton_self _)

/-- A chat that is left is the one that changes. -/
theorem touches_of_leaves (h : LeavesChat now t t' userId chat) :
    Touches changes chatId t t' ↔ chatId = chat.entry.id := by
  rw [touches_changes_iff, or_iff_right (not_opening_of_ids h.ids_eq), leaving_iff, h.participants]
  constructor
  · intro hgone
    by_contra hid
    rw [Function.update_of_ne hid] at hgone
    exact hgone (Finset.Subset.refl _)
  · rintro rfl
    rw [Function.update_self]
    exact fun hsub => Finset.notMem_erase _ _ (hsub h.member)

/-- A chat does not change as long as the rows of chats stay and the same users take part. -/
theorem not_touches_of_stays (hchats : t'.chats = t.chats) (hparticipants : participants t' = participants t) :
    ¬Touches changes chatId t t' := by
  have hids : ids Chat t' = ids Chat t := congrArg (List.map Table.id) hchats
  rw [touches_changes_iff, or_iff_right (not_opening_of_ids hids), leaving_iff, hparticipants]
  exact not_not.mpr (Finset.Subset.refl _)

/-! ## Messages -/

/-- A chat is active if it changes or somebody writes in it. -/
theorem touches_all_iff :
    Touches all chatId t t' ↔ Touches changes chatId t t' ∨ writing.Happens chatId t t' := by
  simp [Touches, all, changes, or_assoc]

/-- Writing is an activity like others. -/
theorem touches_writing_iff : Touches [writing] chatId t t' ↔ writing.Happens chatId t t' := by
  simp [Touches]

/-- Where no message is added, nothing is written. -/
theorem not_writing_of_ids (hids : ids Message t' = ids Message t) : ¬writing.Happens chatId t t' := by
  rintro ⟨m, hm, -, hnew⟩
  have hid : m.entry.id ∈ ids Message t' := List.mem_map_of_mem hm
  exact hnew (hids ▸ hid)

end Activity

/-- The calls on messages are the only ones that write there. -/
theorem Store.Call.exists_message {call : Store.Call} (h : TableName.messages ∈ call.writes) :
    ∃ c, call = .message c := by
  cases call with
  | message c => exact ⟨c, rfl⟩
  | user c | keeper c | seeker c | vet c | post c | review c => exact absurd (c.writes_subset _ h) (by decide)
  | _ => simp [Store.Call.writes] at h

namespace Activity

variable {t t' : Tables} {now : Instant}

/-- A call on messages writes in one chat at most, and changes none. -/
theorem exists_touched_of_message {call : Store.RecordCall Message MessageFilter}
    (h : Effect now t (.message call) t') : ∃ chatId, ∀ other, Touches all other t t' → other = chatId := by
  have hwrites : TableName.chats ∉ (Store.Call.message call).writes ∧
      TableName.members ∉ (Store.Call.message call).writes := Store.Call.not_writes_chats nofun nofun
  have hchats : t'.chats = t.chats := h.agrees hwrites.1
  have hparticipants : participants t' = participants t := participants_of_agrees (h.agrees hwrites.2)
  have hwriting {other : Int} (htouched : Touches all other t t') : writing.Happens other t t' :=
    (touches_all_iff.mp htouched).resolve_left (not_touches_of_stays hchats hparticipants)
  cases h.of_message with
  | stay => exact ⟨0, fun other htouched => absurd (hwriting htouched) (not_writing_of_ids rfl)⟩
  | create given id insertable =>
      refine ⟨given.chatId, fun other htouched => ?_⟩
      obtain ⟨m, hm, hchat, hnew⟩ := hwriting htouched
      rcases List.mem_append.mp hm with hold | hadded
      · exact absurd (List.mem_map_of_mem hold) hnew
      · obtain rfl := List.mem_singleton.mp hadded
        exact hchat.symm
  | update | delete =>
      exact ⟨0, fun other htouched => absurd (hwriting htouched) (not_writing_of_ids (ids_putRow _ _))⟩

/-- A request that leaves the messages alone changes one chat at most. -/
theorem exists_touched_of_follow {config : Config} {db : Database} {a : Arrival} (h : ChatsFollow config db a)
    (hmessages : TableName.messages.Agrees db.tables (db.serve config a).tables) :
    ∃ chatId, ∀ other, Touches all other db.tables (db.serve config a).tables → other = chatId := by
  have hids : ids Message (db.serve config a).tables = ids Message db.tables :=
    congrArg (List.map Table.id) hmessages
  have hchanges {other : Int} (htouched : Touches all other db.tables (db.serve config a).tables) :
      Touches changes other db.tables (db.serve config a).tables :=
    (touches_all_iff.mp htouched).resolve_right (not_writing_of_ids hids)
  rcases h.cases with ⟨chat, userId, request, hopens⟩ | ⟨chat, userId, hleaves⟩ | ⟨hchats, hparticipants⟩
  · exact ⟨chat.entry.id, fun other htouched => (touches_of_opens hopens).mp (hchanges htouched)⟩
  · exact ⟨chat.entry.id, fun other htouched => (touches_of_leaves hleaves).mp (hchanges htouched)⟩
  · exact ⟨0, fun other htouched => absurd (hchanges htouched) (not_touches_of_stays hchats hparticipants)⟩

/-- **A request touches one chat at most.** -/
theorem exists_touched (config : Config) {db : Database} (hsound : Sound db.tables) (a : Arrival) :
    ∃ chatId, ∀ other, Touches all other db.tables (db.serve config a).tables → other = chatId := by
  have hfollow := chatsFollow_serve config db hsound a
  rcases serve_effect config db a with hframe | ⟨endpoint, id?, call, -, -, heffect⟩
  · exact exists_touched_of_follow hfollow (hframe .messages (by decide))
  by_cases hwrites : TableName.messages ∈ call.writes
  · obtain ⟨call, rfl⟩ := Store.Call.exists_message hwrites
    exact exists_touched_of_message heffect
  · exact exists_touched_of_follow hfollow (heffect.agrees hwrites)

/-! ## Dates -/

variable (config : Config)

/-- A chat is dated with the request that changes it. -/
theorem dated_serve {db : Database} (hsound : Sound db.tables) (a : Arrival) {c : Chat}
    (hc : c ∈ (db.serve config a).tables.chats) :
    Touches changes c.entry.id db.tables (db.serve config a).tables ∧ c.entry.updatedAt = a.now.stored ∨
      ¬Touches changes c.entry.id db.tables (db.serve config a).tables ∧ c ∈ db.tables.chats := by
  rcases (chatsFollow_serve config db hsound a).cases with
    ⟨chat, userId, request, hopens⟩ | ⟨chat, userId, hleaves⟩ | ⟨hchats, hparticipants⟩
  · rw [touches_of_opens hopens]
    by_cases hid : c.entry.id = chat.entry.id
    · obtain ⟨drafts, hdrafts, hages⟩ := ageTo_serve config hsound.nodup_ids a
      have hchats : HasEntry.AgeTo Chat.createdBy a.now drafts db.tables.chats _ := hages .chats
      rcases hchats.new c hc with ⟨old, hold, hsame⟩ | ⟨draft, hdraft, hborn⟩
      · exact absurd (List.mem_map.mpr ⟨old, hold, hsame.symm.trans hid⟩) hopens.fresh
      · exact .inl ⟨hid, hborn.updatedAt_eq.trans (congrArg Instant.stored (hdrafts draft hdraft).2)⟩
    · rw [hopens.chats, List.mem_append, List.mem_singleton] at hc
      exact .inr ⟨hid, hc.resolve_right fun hnew => hid (congrArg (·.entry.id) hnew)⟩
  · rw [touches_of_leaves hleaves]
    rw [hleaves.chats] at hc
    obtain ⟨old, hold, rfl⟩ := List.mem_map.mp hc
    by_cases hid : old.entry.id = chat.entry.id
    · rw [if_pos hid]
      exact .inl ⟨chat.id_left _ a.now, chat.updatedAt_left _ a.now⟩
    · rw [if_neg hid]
      exact .inr ⟨hid, hold⟩
  · rw [hchats] at hc
    exact .inr ⟨not_touches_of_stays hchats hparticipants, hc⟩

/-! ## What happened last -/

/-- When one of these kinds of activity happened to the chat last, in a run of requests. -/
def lastOf (kinds : List Activity) (chatId : Int) (run : List Arrival) : Option Instant :=
  beside (serve config)
    (fun db a last => if Touches kinds chatId db.tables (db.serve config a).tables then some a.now else last)
    {} none run

variable {config} {kinds : List Activity} {chatId : Int} {run : List Arrival} {a : Arrival} {x : Instant}

/-- What has happened at a request was the last of its kind. -/
theorem lastOf_of_touches (h : Touches kinds chatId (serveAll config {} run).tables
    ((serveAll config {} run).serve config a).tables) :
    lastOf config kinds chatId (run ++ [a]) = some a.now :=
  (beside_append_singleton _ _ _ _ _ _).trans (if_pos h)

/-- What does not touch a chat is not the last that did. -/
theorem lastOf_of_not_touches (h : ¬Touches kinds chatId (serveAll config {} run).tables
    ((serveAll config {} run).serve config a).tables) :
    lastOf config kinds chatId (run ++ [a]) = lastOf config kinds chatId run :=
  (beside_append_singleton _ _ _ _ _ _).trans (if_neg h)

/-- What is told of the end of a run: it has just happened, or it was so before. -/
theorem lastOf_cases (h : lastOf config kinds chatId (run ++ [a]) = some x) :
    (Touches kinds chatId (serveAll config {} run).tables ((serveAll config {} run).serve config a).tables ∧
      a.now = x) ∨ lastOf config kinds chatId run = some x := by
  by_cases htouched : Touches kinds chatId (serveAll config {} run).tables
      ((serveAll config {} run).serve config a).tables
  · rw [lastOf_of_touches htouched] at h
    exact .inl ⟨htouched, Option.some.inj h⟩
  · rw [lastOf_of_not_touches htouched] at h
    exact .inr h

/-- It happened at a request. -/
theorem exists_of_lastOf (h : lastOf config kinds chatId run = some x) : ∃ a ∈ run, a.now = x := by
  induction run using List.reverseRecOn with
  | nil => cases h
  | append_singleton run a ih =>
      rcases lastOf_cases h with ⟨-, hnow⟩ | hbefore
      · exact ⟨a, List.mem_append_right run (List.mem_singleton_self a), hnow⟩
      · obtain ⟨b, hb, hnow⟩ := ih hbefore
        exact ⟨b, List.mem_append_left [a] hb, hnow⟩

/-- **A chat is dated with its last change.** -/
theorem exists_lastOf_changes (run : List Arrival) {c : Chat} (hc : c ∈ (serveAll config {} run).tables.chats) :
    ∃ change, lastOf config changes c.entry.id run = some change ∧ c.entry.updatedAt = change.stored := by
  induction run using List.reverseRecOn with
  | nil => cases hc
  | append_singleton run a ih =>
      rw [serveAll_append] at hc
      rcases dated_serve config (sound_serveAll config run) a hc with ⟨htouched, hdate⟩ | ⟨htouched, hold⟩
      · exact ⟨a.now, lastOf_of_touches htouched, hdate⟩
      · rw [lastOf_of_not_touches htouched]
        exact ih hold

/-! ## A clock that goes on -/

/-- The clock goes on from a request to a later one. -/
def Ticks (run : List Arrival) : Prop := run.Pairwise fun a b => a.now.toNanos < b.now.toNanos

/-- The clock goes on ticking if it does so up to the end. -/
theorem Ticks.of_append (h : Ticks (run ++ [a])) : Ticks run := (List.pairwise_append.mp h).1

/-- What happened before the last request happened sooner. -/
theorem lt_of_lastOf (hclock : Ticks (run ++ [a])) (h : lastOf config kinds chatId run = some x) :
    x.toNanos < a.now.toNanos := by
  obtain ⟨b, hb, rfl⟩ := exists_of_lastOf h
  exact (List.pairwise_append.mp hclock).2.2 b hb a (List.mem_singleton_self a)

/-- A chat was active last when it was changed last, or it was written in since. -/
theorem lastOf_all_of_changes (hclock : Ticks run) (h : lastOf config changes chatId run = some x) :
    ∃ y, lastOf config all chatId run = some y ∧
      (y = x ∨ x.toNanos < y.toNanos ∧ lastOf config [writing] chatId run = some y) := by
  induction run using List.reverseRecOn with
  | nil => cases h
  | append_singleton run a ih =>
      by_cases hchanges : Touches changes chatId (serveAll config {} run).tables
          ((serveAll config {} run).serve config a).tables
      · rw [lastOf_of_touches hchanges] at h
        obtain rfl := Option.some.inj h
        exact ⟨a.now, lastOf_of_touches (touches_all_iff.mpr (.inl hchanges)), .inl rfl⟩
      rw [lastOf_of_not_touches hchanges] at h
      by_cases hwriting : writing.Happens chatId (serveAll config {} run).tables
          ((serveAll config {} run).serve config a).tables
      · have hall := lastOf_of_touches (touches_all_iff.mpr (.inr hwriting))
        have hlast := lastOf_of_touches (touches_writing_iff.mpr hwriting)
        exact ⟨a.now, hall, .inr ⟨lt_of_lastOf hclock h, hlast⟩⟩
      · rw [lastOf_of_not_touches (mt touches_all_iff.mp (not_or.mpr ⟨hchanges, hwriting⟩)),
          lastOf_of_not_touches (mt touches_writing_iff.mp hwriting)]
        exact ih hclock.of_append h

/-- **No two chats were active last at the same time.** -/
theorem eq_of_lastOf {other : Int} {y : Instant} (hclock : Ticks run)
    (h : lastOf config all chatId run = some x) (h' : lastOf config all other run = some y)
    (hnow : x.toNanos = y.toNanos) : chatId = other := by
  induction run using List.reverseRecOn with
  | nil => cases h
  | append_singleton run a ih =>
      obtain ⟨touched, honly⟩ := exists_touched config (sound_serveAll config run) a
      rcases lastOf_cases h with ⟨hchat, rfl⟩ | hchat <;> rcases lastOf_cases h' with ⟨hother, rfl⟩ | hother
      · exact (honly chatId hchat).trans (honly other hother).symm
      · have hlt := lt_of_lastOf hclock hother
        omega
      · have hlt := lt_of_lastOf hclock hchat
        omega
      · exact ih hclock.of_append hchat hother

end Activity

/-! ## The list of chats -/

namespace Chats

open Activity

variable {config : Config} {run : List Arrival} {userId : Int} {rows : List ChatWithMembers}
  {c d : ChatWithMembers}

/-- A chat was opened or left later than another one. It goes by the microsecond, and in the same one by the
ids. -/
def ChangedAfter (config : Config) (run : List Arrival) (c d : ChatWithMembers) : Prop :=
  ∃ x y, lastOf config changes c.chat.entry.id run = some x ∧
    lastOf config changes d.chat.entry.id run = some y ∧
    Precedes .desc (.moment x.stored, c.chat.entry.id) (.moment y.stored, d.chat.entry.id)

/-- A chat was active later than another one. -/
def ActiveAfter (config : Config) (run : List Arrival) (c d : ChatWithMembers) : Prop :=
  ∃ x y, lastOf config all c.chat.entry.id run = some x ∧
    lastOf config all d.chat.entry.id run = some y ∧ y.toNanos < x.toNanos

/-- Of two chats one at most has changed after the other. -/
theorem ChangedAfter.asymm (h : ChangedAfter config run c d) : ¬ChangedAfter config run d c := by
  obtain ⟨x, y, hx, hy, hbefore⟩ := h
  rintro ⟨y', x', hy', hx', hafter⟩
  obtain rfl := Option.some.inj (hx.symm.trans hx')
  obtain rfl := Option.some.inj (hy.symm.trans hy')
  exact hbefore.asymm hafter

/-- No chat has changed after itself. -/
theorem ChangedAfter.id_ne (h : ChangedAfter config run c d) : c.chat.entry.id ≠ d.chat.entry.id := by
  obtain ⟨x, y, hx, hy, hbefore⟩ := h
  intro hid
  rw [hid] at hx hbefore
  obtain rfl := Option.some.inj (hx.symm.trans hy)
  exact hbefore.asymm hbefore

/-- Of two chats one at most has been active after the other. -/
theorem ActiveAfter.asymm (h : ActiveAfter config run c d) : ¬ActiveAfter config run d c := by
  obtain ⟨x, y, hx, hy, hlt⟩ := h
  rintro ⟨y', x', hy', hx', hlt'⟩
  obtain rfl := Option.some.inj (hx.symm.trans hx')
  obtain rfl := Option.some.inj (hy.symm.trans hy')
  omega

/-- A chat was active last when it was opened or left last, or it was written in since. -/
def WasActive (config : Config) (run : List Arrival) (c : ChatWithMembers) : Prop :=
  ∃ change active, lastOf config changes c.chat.entry.id run = some change ∧
    lastOf config all c.chat.entry.id run = some active ∧
    (active = change ∨
      change.toNanos < active.toNanos ∧ lastOf config [.writing] c.chat.entry.id run = some active)

/-- How the chats of a user are listed after a run of requests. -/
structure IsListedByChange (config : Config) (run : List Arrival) (rows : List ChatWithMembers) : Prop where
  active : ∀ c ∈ rows, WasActive config run c
  ordered : rows.Pairwise (ChangedAfter config run)
  byActivity_iff : rows.Pairwise (ActiveAfter config run) ↔
    ∀ c ∈ rows, ∀ d ∈ rows, ChangedAfter config run c d → ¬ActiveAfter config run d c

/-- A list of chats is in the order in which they have changed, as long as the clock ticks. -/
theorem isListedByChange_of_lists (hclock : Ticks run) (h : ListsChats (serveAll config {} run) userId rows) :
    IsListedByChange config run rows := by
  have hchange (c : ChatWithMembers) (hc : c ∈ rows) : ∃ change,
      lastOf config changes c.chat.entry.id run = some change ∧ c.chat.entry.updatedAt = change.stored :=
    exists_lastOf_changes run ((h.mem_iff c).mp hc).1
  have hactive (c : ChatWithMembers) (hc : c ∈ rows) : WasActive config run c := by
    obtain ⟨change, hlast, -⟩ := hchange c hc
    obtain ⟨active, hall, hsince⟩ := lastOf_all_of_changes hclock hlast
    exact ⟨change, active, hlast, hall, hsince⟩
  have hordered : rows.Pairwise (ChangedAfter config run) := by
    refine h.ordered.imp_of_mem fun {c d} hc hd hprecedes => ?_
    obtain ⟨x, hx, hcdate⟩ := hchange c hc
    obtain ⟨y, hy, hddate⟩ := hchange d hd
    rw [hcdate, hddate] at hprecedes
    exact ⟨x, y, hx, hy, hprecedes⟩
  -- rows that are listed by their last change can be listed by their last activity only if the two
  -- never cross
  refine ⟨hactive, hordered, fun hbyActivity => ?_, fun hnever => ?_⟩
  · exact not_crossed (fun _ _ => ChangedAfter.asymm) (fun _ _ => ActiveAfter.asymm) hordered hbyActivity
  · refine hordered.imp_of_mem fun {c d} hc hd hafter => ?_
    obtain ⟨-, x, -, hx, -⟩ := hactive c hc
    obtain ⟨-, y, -, hy, -⟩ := hactive d hd
    refine ⟨x, y, hx, hy, ?_⟩
    have hle : y.toNanos ≤ x.toNanos := by
      by_contra hlt
      exact hnever c hc d hd hafter ⟨y, x, hy, hx, by omega⟩
    exact lt_of_le_of_ne hle fun hsame => hafter.id_ne (eq_of_lastOf hclock hx hy hsame.symm)

/-- **Chats are listed by their last opening or leaving.** Under a clock that goes on, the list is in the
order of activity exactly if no chat was active after another one that was opened or left later. Writing
alone does not bring a chat up. -/
theorem lists_by_change (config : Config) {run : List Arrival} (hclock : Ticks run) (userId : Int) :
    ∃ rows, ListsChats (serveAll config {} run) userId rows ∧ IsListedByChange config run rows := by
  obtain ⟨rows, hrows⟩ := exists_listsChats (sound_serveAll config run) userId
  exact ⟨rows, hrows, isListedByChange_of_lists hclock hrows⟩

/-! ## A chat that is not brought up -/

/-- She opens a chat with nobody but herself. -/
def annaOpens (seconds : Int) : Arrival := annaPosts seconds "/api/v1/chats" "\x7b\"member_ids\":[1]\x7d"

/-- She writes in the first chat. -/
def annaWritesAgain : Arrival := annaPosts 63 "/api/v1/chats/1/messages" "\x7b\"content\":\"Hello\"\x7d"

/-- She registers, opens two chats, and writes in the first one. -/
def annasRun : List Arrival := [annaRegisters annasToken, annaOpens 61, annaOpens 62] ++ [annaWritesAgain]

/-- The clock ticks for Anna. -/
theorem ticks_annasRun : Ticks annasRun := by
  unfold Ticks
  decide

/-- Her chats are listed by their changes. -/
theorem lists_by_change_annas : Ticks annasRun ∧
    ∃ rows, ListsChats (serveAll (.blockingAt 3) {} annasRun) 1 rows ∧
      IsListedByChange (.blockingAt 3) annasRun rows :=
  ⟨ticks_annasRun, lists_by_change (.blockingAt 3) ticks_annasRun 1⟩

/-- A chat that Anna asks for is opened at the time of her request. -/
theorem serve_annaOpens {seconds : Int} (hseconds : seconds ∈ [61, 62, 63]) (db : Database) :
    db.serve (.blockingAt 3) (annaOpens seconds) =
      ((create 1 ⟨none, [1]⟩ : Op Database ChatWithMembers).exec ⟨seconds, 0⟩ db).2 := by
  let x : Exchange := (annaOpens seconds).exchange (.blockingAt 3) none
  have hcaller : x.caller = .ok ⟨1, false⟩ := caller_annaPosts hseconds rfl
  have hreceive : receive CreateChat (Utf8.encode "\x7b\"member_ids\":[1]\x7d") = .ok ⟨none, [1]⟩ := by
    decide +kernel
  have hbody : x.body CreateChat = .ok ⟨none, [1]⟩ := Exchange.body_of_receive hreceive
  have hplan : (x.plan .createChat : Except Reply (Action Database)) =
      .ok (.shows 201 ChatWithMembers.view (create 1 ⟨none, [1]⟩)) := by
    change (x.caller >>= fun caller => x.body CreateChat >>= _) = _
    rw [hcaller, hbody]
    rfl
  have hfind : Endpoint.find (annaOpens seconds).incoming = .endpoint .createChat none :=
    show Endpoint.findIn "POST" (Path.segments "/api/v1/chats") Endpoint.routes = _ by decide
  exact serve_of_shows hfind hplan

/-- She writes in her first chat. -/
theorem serve_annaWritesAgain (db : Database) :
    db.serve (.blockingAt 3) annaWritesAgain =
      ((Messages.send 1 1 ⟨"Hello"⟩ : Op Database Message).exec ⟨63, 0⟩ db).2 := by
  let x : Exchange := annaWritesAgain.exchange (.blockingAt 3) (some ("id", "1"))
  have hcaller : x.caller = .ok ⟨1, false⟩ := caller_annaPosts (by decide) rfl
  have hid : x.id = .ok 1 := readId_one
  have hreceive : receive SendMessage (Utf8.encode "\x7b\"content\":\"Hello\"\x7d") = .ok ⟨"Hello"⟩ := by
    decide +kernel
  have hbody : x.body SendMessage = .ok ⟨"Hello"⟩ := Exchange.body_of_receive hreceive
  have hplan : (x.plan .sendMessage : Except Reply (Action Database)) =
      .ok (.shows 201 Message.view (Messages.send 1 1 ⟨"Hello"⟩)) := by
    change (x.caller >>= fun caller => x.id >>= fun id => x.body SendMessage >>= _) = _
    rw [hcaller, hid, hbody]
    rfl
  have hfind : Endpoint.find annaWritesAgain.incoming = .endpoint .sendMessage (some ("id", "1")) :=
    show Endpoint.findIn "POST" (Path.segments "/api/v1/chats/1/messages") Endpoint.routes = _ by decide
  exact serve_of_shows hfind hplan

/-- A chat of Anna's. -/
def annasChat (id seconds : Int) : Chat :=
  { entry := { id, createdAt := ⟨seconds, 0⟩, updatedAt := ⟨seconds, 0⟩ }, createdBy := 1 }

/-- A database in which there are Anna and her two chats. -/
def withChats (passwordHash : String) (messages : List Message) : Database where
  tables :=
    { (withAnna passwordHash [] 0).tables with
      chats := [annasChat 1 61, annasChat 2 62]
      members := [⟨1, 1, ⟨61, 0⟩⟩, ⟨2, 1, ⟨62, 0⟩⟩]
      messages }
  sequences := { users := 1, chats := 2, messages := messages.length }

/-- What she writes. -/
def annasMessage : Message :=
  { entry := { id := 1, createdAt := ⟨63, 0⟩, updatedAt := ⟨63, 0⟩ }, chatId := 1, senderId := 1,
    content := "Hello" }

/-- Anna takes part in her first chat. -/
theorem takesPart_withChats (passwordHash : String) (messages : List Message) :
    (withChats passwordHash messages).TakesPart 1 1 :=
  ⟨annasChat 1 61, List.mem_cons_self, rfl, rfl, mem_memberIds.mpr ⟨_, List.mem_cons_self, rfl, rfl⟩⟩

/-- Anna opens a chat, opens another one, and writes in the first. -/
theorem serveAll_annasRun : ∃ passwordHash,
    serveAll (.blockingAt 3) {} [annaRegisters annasToken, annaOpens 61, annaOpens 62] =
      withChats passwordHash [] ∧
    (withChats passwordHash []).serve (.blockingAt 3) annaWritesAgain =
      withChats passwordHash [annasMessage] ∧
    serveAll (.blockingAt 3) {} annasRun = withChats passwordHash [annasMessage] := by
  obtain ⟨hash, hregisters⟩ := serve_annaRegisters (.blockingAt 3) annasToken
  have hopens : serveAll (.blockingAt 3) {} [annaRegisters annasToken, annaOpens 61, annaOpens 62] =
      withChats hash [] := by
    rw [serveAll_cons, hregisters, serveAll_cons, serve_annaOpens (by decide), serveAll_cons,
      serve_annaOpens (by decide)]
    rfl
  have hwrites : (withChats hash []).serve (.blockingAt 3) annaWritesAgain = withChats hash [annasMessage] := by
    rw [serve_annaWritesAgain, Messages.exec_send_of_part (takesPart_withChats hash [])]
    rfl
  refine ⟨hash, hopens, hwrites, ?_⟩
  rw [annasRun, serveAll_append, hopens, serveAll_cons, hwrites, serveAll_nil]

section

variable (hc : c.chat = annasChat 1 61) (hd : d.chat = annasChat 2 62)
include hc hd

/-- The second chat was opened after the first one. -/
theorem changedAfter_annasRun : ChangedAfter (.blockingAt 3) annasRun d c := by
  obtain ⟨hash, -, -, hafter⟩ := serveAll_annasRun
  have hdated {chat : Chat} (hmem : chat ∈ [annasChat 1 61, annasChat 2 62]) : ∃ x,
      lastOf (.blockingAt 3) changes chat.entry.id annasRun = some x ∧ chat.entry.updatedAt = x.stored := by
    refine exists_lastOf_changes annasRun ?_
    rw [hafter]
    exact hmem
  obtain ⟨x, hx, hdate⟩ := hdated List.mem_cons_self
  obtain ⟨y, hy, hdate'⟩ := hdated (List.mem_cons_of_mem _ List.mem_cons_self)
  unfold ChangedAfter
  rw [hc, hd]
  refine ⟨y, x, hy, hx, ?_⟩
  rw [← hdate, ← hdate']
  exact .inl (.moment (by decide))

/-- The first chat was active after the second one. -/
theorem activeAfter_annasRun : ActiveAfter (.blockingAt 3) annasRun c d := by
  obtain ⟨hash, hbefore, hwrites, -⟩ := serveAll_annasRun
  have hwritten : Activity.writing.Happens 1 (withChats hash []).tables
      (withChats hash [annasMessage]).tables := ⟨annasMessage, List.mem_cons_self, rfl, nofun⟩
  have hlast : lastOf (.blockingAt 3) all 1 annasRun = some ⟨63, 0⟩ := by
    refine lastOf_of_touches (touches_all_iff.mpr (.inr ?_))
    rw [hbefore, hwrites]
    exact hwritten
  obtain ⟨_, -, hchange, -⟩ := changedAfter_annasRun hc hd
  obtain ⟨y, hlast', -⟩ := lastOf_all_of_changes ticks_annasRun hchange
  unfold ActiveAfter
  rw [hd] at hlast' ⊢
  rw [hc]
  refine ⟨⟨63, 0⟩, y, hlast, hlast', ?_⟩
  rcases lastOf_cases hlast' with ⟨-, hnow⟩ | hsooner
  · exact absurd (eq_of_lastOf ticks_annasRun hlast hlast' (congrArg Instant.toNanos hnow)) (by decide)
  · exact lt_of_lastOf ticks_annasRun hsooner

end

/-- Both of Anna's chats are listed. -/
theorem listed_annasRun (h : ListsChats (serveAll (.blockingAt 3) {} annasRun) 1 rows) :
    (∃ c ∈ rows, c.chat = annasChat 1 61) ∧ ∃ d ∈ rows, d.chat = annasChat 2 62 := by
  obtain ⟨hash, -, -, hafter⟩ := serveAll_annasRun
  rw [h.exists_iff, h.exists_iff, hafter]
  have hpart {id : Int} {joinedAt : Instant}
      (hm : ⟨id, 1, joinedAt⟩ ∈ (withChats hash [annasMessage]).tables.members) :
      1 ∈ memberIds (withChats hash [annasMessage]).tables id := mem_memberIds.mpr ⟨_, hm, rfl, rfl⟩
  have hsecond {α : Type} (x y : α) : y ∈ [x, y] := List.mem_cons_of_mem x List.mem_cons_self
  exact ⟨⟨List.mem_cons_self, rfl, hpart List.mem_cons_self⟩, hsecond _ _, rfl, hpart (hsecond _ _)⟩

/-- So her chats are not listed by their activity. -/
theorem annas_chats_not_by_activity : Ticks annasRun ∧
    ∃ rows, ListsChats (serveAll (.blockingAt 3) {} annasRun) 1 rows ∧
      ¬rows.Pairwise (ActiveAfter (.blockingAt 3) annasRun) := by
  obtain ⟨rows, hrows⟩ := exists_listsChats (sound_serveAll (.blockingAt 3) annasRun) 1
  refine ⟨ticks_annasRun, rows, hrows, fun hbyActivity => ?_⟩
  obtain ⟨⟨c, hc, hfirst⟩, d, hd, hsecond⟩ := listed_annasRun hrows
  have hlisted := isListedByChange_of_lists ticks_annasRun hrows
  exact hlisted.byActivity_iff.mp hbyActivity d hd c hc (changedAfter_annasRun hfirst hsecond)
    (activeAfter_annasRun hfirst hsecond)

end Chats

end Fostering
