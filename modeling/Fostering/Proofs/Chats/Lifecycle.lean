import Fostering.Proofs.Chats.Participants

/-!
# The life of a chat

A chat is opened with those who take part in it. From then on nobody comes in, and who leaves is out for
good; the last one who leaves deletes the chat. So a chat is live exactly as long as somebody takes part
in it.

* `ChatsFollow.peopled`: a request keeps live what has participants, and nothing else.
* `ChatsFollow.shrinks`: nobody comes into a chat that is there.
* `isShutOut_of_notMem`: what somebody cannot do who does not take part.
* `chat_lifecycle`: the life of the chats in every run of requests.
-/

namespace Fostering

/-- A live chat that somebody leaves stays live if there is somebody left. -/
theorem Chat.isLive_left (chat : Chat) (hlive : chat.entry.isLive = true) (isEmpty : Bool) (now : Instant) :
    (chat.left isEmpty now).entry.isLive = !isEmpty := by
  cases isEmpty with
  | false => exact hlive
  | true => rfl

namespace Database

variable {config : Config} {db : Database} {a : Arrival} {t t' t'' : Tables}

/-! ## One request -/

/-- A chat is opened, somebody leaves one, or all stays as it was. -/
theorem ChatsFollow.cases (h : ChatsFollow config db a) :
    (∃ chat userId request, OpensChat db.tables (db.serve config a).tables userId request chat) ∨
      (∃ chat userId, LeavesChat a.now db.tables (db.serve config a).tables userId chat) ∨
      (db.serve config a).tables.chats = db.tables.chats ∧
        participants (db.serve config a).tables = participants db.tables := by
  by_cases hopens : ∀ caller request, a.Opens config caller request → 400 ≤ (db.reply config a).status
  case neg =>
    push Not at hopens
    obtain ⟨caller, request, hasks, hstatus⟩ := hopens
    obtain ⟨chat, hchat⟩ := h.opening caller request hasks hstatus
    exact .inl ⟨chat, caller.userId, request, hchat⟩
  by_cases hleaves : ∀ caller chatId, a.Asks config .leaveChat caller chatId →
      400 ≤ (db.reply config a).status
  case neg =>
    push Not at hleaves
    obtain ⟨caller, chatId, hasks, hstatus⟩ := hleaves
    obtain ⟨chat, -, hchat⟩ := h.leaving caller chatId hasks hstatus
    exact .inr (.inl ⟨chat, caller.userId, hchat⟩)
  exact .inr (.inr (h.staying hopens hleaves))

/-! ## Live chats -/

/-- A chat is live exactly as long as somebody takes part in it. -/
def Peopled (t : Tables) : Prop :=
  ∀ chat ∈ t.chats, chat.entry.isLive = true ↔ (participants t chat.entry.id).Nonempty

section

variable {now : Instant} {userId : Int} {request : CreateChat} {chat : Chat}

/-- A chat that is opened has somebody who takes part in it. -/
theorem OpensChat.peopled (h : OpensChat t t' userId request chat) (hpeopled : Peopled t) : Peopled t' := by
  intro c hc
  rw [h.chats, List.mem_append, List.mem_singleton] at hc
  rw [h.participants]
  rcases hc with hold | rfl
  · have hne : c.entry.id ≠ chat.entry.id := fun heq => h.fresh (heq ▸ List.mem_map_of_mem hold)
    rw [Function.update_of_ne hne]
    exact hpeopled c hold
  · rw [Function.update_self]
    exact iff_of_true h.live ⟨userId, Finset.mem_union_left _ (Finset.mem_singleton_self userId)⟩

/-- The last one who leaves deletes the chat, and nobody else does. -/
theorem LeavesChat.peopled (h : LeavesChat now t t' userId chat) (hpeopled : Peopled t) : Peopled t' := by
  intro c hc
  rw [h.chats] at hc
  rw [h.participants]
  obtain ⟨old, hold, rfl⟩ := List.mem_map.mp hc
  by_cases hid : old.entry.id = chat.entry.id
  · rw [if_pos hid, chat.isLive_left h.live, chat.id_left, Function.update_self,
      Finset.nonempty_iff_ne_empty, Ne, Finset.erase_eq_empty_iff,
      or_iff_right (Finset.ne_empty_of_mem h.member), Bool.not_eq_true', decide_eq_false_iff_not]
  · rw [if_neg hid, Function.update_of_ne hid]
    exact hpeopled old hold

/-- **A request keeps live what has participants, and nothing else.** -/
theorem ChatsFollow.peopled (h : ChatsFollow config db a) (hpeopled : Peopled db.tables) :
    Peopled (db.serve config a).tables := by
  rcases h.cases with ⟨chat, userId, request, hopens⟩ | ⟨chat, userId, hleaves⟩ | ⟨hchats, hparticipants⟩
  · exact hopens.peopled hpeopled
  · exact hleaves.peopled hpeopled
  · intro c hc
    rw [hchats] at hc
    rw [hparticipants]
    exact hpeopled c hc

/-! ## Nobody comes in -/

/-- Chats stay, and nobody comes into one that is there. -/
structure Shrinks (t t' : Tables) : Prop where
  ids : ids Chat t ⊆ ids Chat t'
  participants : ∀ chatId ∈ Database.ids Chat t, participants t' chatId ⊆ participants t chatId

theorem shrinks_refl (t : Tables) : Shrinks t t := ⟨List.Subset.refl _, fun _ _ => Finset.Subset.refl _⟩

theorem Shrinks.trans (h : Shrinks t t') (h' : Shrinks t' t'') : Shrinks t t'' where
  ids := List.Subset.trans h.ids h'.ids
  participants chatId hid := (h'.participants chatId (h.ids hid)).trans (h.participants chatId hid)

/-- The ids of chats stand in their rows. -/
theorem ids_chats (t : Tables) : ids Chat t = t.chats.map fun c => c.entry.id := rfl

/-- A chat that is opened brings its id along. -/
theorem OpensChat.ids_eq (h : OpensChat t t' userId request chat) :
    ids Chat t' = ids Chat t ++ [chat.entry.id] := by
  rw [ids_chats, ids_chats, h.chats, List.map_append, List.map_singleton]

/-- A chat that is left has the same id as before. -/
theorem LeavesChat.ids_eq (h : LeavesChat now t t' userId chat) : ids Chat t' = ids Chat t := by
  rw [ids_chats, ids_chats, h.chats, List.map_map]
  refine List.map_congr_left fun c _ => ?_
  rw [Function.comp_apply]
  split_ifs with hleft
  · rw [chat.id_left, hleft]
  · rfl

/-- Whoever opens a chat comes into that one only, which is new. -/
theorem OpensChat.shrinks (h : OpensChat t t' userId request chat) : Shrinks t t' where
  ids := by
    rw [h.ids_eq]
    exact List.subset_append_left _ _
  participants chatId hid := by
    have hne : chatId ≠ chat.entry.id := fun heq => h.fresh (heq ▸ hid)
    rw [h.participants, Function.update_of_ne hne]

/-- Whoever leaves a chat comes into none. -/
theorem LeavesChat.shrinks (h : LeavesChat now t t' userId chat) : Shrinks t t' where
  ids := by
    rw [h.ids_eq]
    exact List.Subset.refl _
  participants chatId _ := by
    rw [h.participants]
    by_cases hleft : chatId = chat.entry.id
    · rw [hleft, Function.update_self]
      exact Finset.erase_subset _ _
    · rw [Function.update_of_ne hleft]

/-- **Nobody comes into a chat that is there, whatever the request.** -/
theorem ChatsFollow.shrinks (h : ChatsFollow config db a) :
    Shrinks db.tables (db.serve config a).tables := by
  rcases h.cases with ⟨chat, userId, request, hopens⟩ | ⟨chat, userId, hleaves⟩ | ⟨hchats, hparticipants⟩
  · exact hopens.shrinks
  · exact hleaves.shrinks
  · constructor
    · rw [ids_chats, ids_chats, hchats]
      exact List.Subset.refl _
    · intro chatId _
      rw [hparticipants]

end

end Database

/-! ## Who is shut out -/

section

variable {config : Config} {db : Database} {a : Arrival}

/-- A request for which no action succeeds is not answered as a success. -/
theorem Database.le_status_of_plans {endpoint : Endpoint} {id? : Option (String × String)}
    (hfind : Endpoint.find a.incoming = .endpoint endpoint id?)
    (h : Plans (fun action : Action Database => ¬Op.Succeeds action a.now db)
      ((a.exchange config id?).plan endpoint)) : 400 ≤ (db.reply config a).status := by
  rcases hplan : ((a.exchange config id?).plan endpoint : Except Reply (Action Database)) with fault | action
  · have hfault := Exchange.faults_plan _ endpoint (Endpoint.isSome_of_find hfind) fault hplan
    have hstatus := (App.serve_of_error (s := db) hfind hplan).1
    exact Nat.le_trans hfault.1 (Nat.le_of_eq hstatus.symm)
  · have hstatus := (App.serve_of_ok (s := db) hfind hplan).1
    rcases hexec : (action.exec a.now db).1 with cause | result
    · rw [hexec] at hstatus
      exact Nat.le_trans cause.le_status (Nat.le_of_eq hstatus.symm)
    · exact absurd ⟨result, hexec⟩ (h action hplan)

/-- A request of a caller, about the row with an id, for which no action succeeds. -/
theorem Arrival.Asks.le_status {endpoint : Endpoint} {caller : Caller} {id : Int}
    (hasks : a.Asks config endpoint caller id)
    {rest : Exchange → Caller → Int → Except Reply (Action Database)}
    (hplan : ∀ x : Exchange, x.plan endpoint = (do
      let caller ← x.caller
      let id ← x.id
      rest x caller id))
    (h : ∀ x, Plans (fun action : Action Database => ¬Op.Succeeds action a.now db) (rest x caller id)) :
    400 ≤ (db.reply config a).status := by
  obtain ⟨id?, hfind, hcaller, hpath⟩ := hasks
  refine Database.le_status_of_plans hfind ?_
  rw [hplan]
  refine .reading fun caller' hcaller' => .reading fun id' hpath' => ?_
  obtain rfl : caller' = caller := Except.ok.inj (hcaller'.symm.trans hcaller)
  obtain rfl : id' = id := Except.ok.inj (hpath'.symm.trans hpath)
  exact h _

end

/-- What somebody cannot do in a chat: neither through the service, nor by any request. -/
structure Database.IsShutOut (db : Database) (userId chatId : Int) : Prop where
  get : ∀ now, ¬(Chats.get userId chatId : Op Database ChatWithMembers).Succeeds now db
  leave : ∀ now, ¬(Chats.leave userId chatId : Op Database Unit).Succeeds now db
  list : ∀ sort page defaults now,
    ¬(Messages.list userId chatId sort page defaults : Op Database (List Message)).Succeeds now db
  send : ∀ request now, ¬(Messages.send userId chatId request : Op Database Message).Succeeds now db
  update : ∀ m ∈ db.tables.messages, m.chatId = chatId → ∀ request now,
    ¬(Messages.update userId m.entry.id request : Op Database Message).Succeeds now db
  /-- The chat is not among the chats of the user. -/
  chats : ∀ page now chats,
    ((Chats.list userId page : Op Database (List ChatWithMembers)).exec now db).1 = .ok chats →
      ∀ c ∈ chats, c.chat.entry.id ≠ chatId
  requests : ∀ (config : Config) (a : Arrival) (caller : Caller) (endpoint : Endpoint),
    caller.userId = userId → a.Asks config endpoint caller chatId →
      endpoint ∈ [.getChat, .leaveChat, .listMessages, .sendMessage] →
        400 ≤ (db.reply config a).status
  edits : ∀ (config : Config) (a : Arrival) (caller : Caller), caller.userId = userId →
    ∀ m ∈ db.tables.messages, m.chatId = chatId → a.Asks config .updateMessage caller m.entry.id →
      400 ≤ (db.reply config a).status

namespace Database

variable {db : Database} {userId chatId : Int}

/-- Who is no participant of a chat takes no part in it. -/
theorem not_takesPart (h : userId ∉ participants db.tables chatId) : ¬db.TakesPart userId chatId := by
  rintro ⟨chat, -, -, -, hpart⟩
  exact h (List.mem_toFinset.mpr hpart)

/-- Who is no participant of a chat cannot change messages there, not even their own. -/
theorem not_update_succeeds (hkeys : (ids Message db.tables).Nodup)
    (h : userId ∉ participants db.tables chatId) {m : Message} (hm : m ∈ db.tables.messages)
    (hchat : m.chatId = chatId) (request : UpdateMessage) (now : Instant) :
    ¬(Messages.update userId m.entry.id request : Op Database Message).Succeeds now db := by
  intro hsucceeds
  obtain ⟨n, hn, hid, -, hpart⟩ := Messages.takesPart_of_update hsucceeds
  obtain rfl : n = m := eq_of_key hkeys hn hm hid
  exact not_takesPart h (hchat ▸ hpart)

/-- **Who does not take part in a chat is shut out of it.** -/
theorem isShutOut_of_notMem (hkeys : (ids Message db.tables).Nodup)
    (h : userId ∉ participants db.tables chatId) : db.IsShutOut userId chatId where
  get now hsucceeds := not_takesPart h (Chats.findAsMember_succeeds_iff.mp hsucceeds)
  leave now hsucceeds :=
    not_takesPart h (Chats.findAsMember_succeeds_iff.mp (Op.succeeds_of_bind hsucceeds))
  list sort page defaults now hsucceeds := not_takesPart h (Messages.takesPart_of_list hsucceeds)
  send request now hsucceeds := not_takesPart h (Messages.takesPart_of_send hsucceeds)
  update m hm hchat request now := not_update_succeeds hkeys h hm hchat request now
  chats page now chats hchats c hc := by
    cases hchats
    obtain ⟨chat, hchat, rfl⟩ := List.mem_map.mp hc
    obtain ⟨-, hshown⟩ := List.mem_filter.mp ((mem_sortRows _ _ _ _).mp (Page.mem_of_mem_slice hchat))
    rw [Bool.and_eq_true, isMember_iff] at hshown
    rintro rfl
    exact h (List.mem_toFinset.mpr hshown.2)
  requests config a caller endpoint := by
    rintro rfl hasks hendpoint
    have hfind : ¬(Chats.findAsMember caller.userId chatId : Op Database ChatWithMembers).Succeeds a.now db :=
      fun hsucceeds => not_takesPart h (Chats.findAsMember_succeeds_iff.mp hsucceeds)
    simp only [List.mem_cons, List.not_mem_nil, or_false] at hendpoint
    rcases hendpoint with rfl | rfl | rfl | rfl
    · exact hasks.le_status (fun _ => rfl) fun _ => .ok fun hsucceeds =>
        hfind (Op.succeeds_of_bind hsucceeds)
    · exact hasks.le_status (fun _ => rfl) fun _ => .ok fun hsucceeds =>
        hfind (Op.succeeds_of_bind (Op.succeeds_of_bind hsucceeds))
    · exact hasks.le_status (fun _ => rfl) fun _ => .read fun _ => .ok fun hsucceeds =>
        not_takesPart h (Messages.takesPart_of_list (Op.succeeds_of_bind hsucceeds))
    · exact hasks.le_status (fun _ => rfl) fun _ => .read fun _ => .ok fun hsucceeds =>
        hfind (Op.succeeds_of_bind (Op.succeeds_of_bind hsucceeds))
  edits config a caller := by
    rintro rfl m hm hchat hasks
    exact hasks.le_status (fun _ => rfl) fun _ => .read fun request => .ok fun hsucceeds =>
      not_update_succeeds hkeys h hm hchat request a.now (Op.succeeds_of_bind hsucceeds)

/-! ## Runs -/

/-- After every run of requests, the tables are sound, and chats are live as long as they have
participants. -/
theorem peopled_serveAll (config : Config) (run : List Arrival) :
    Sound (serveAll config {} run).tables ∧ Peopled (serveAll config {} run).tables := by
  have hcalls : KeptByCalls fun db => Sound db.tables :=
    fun call now db h => sound_of_effect h (effect_perform now db call)
  let P (db : Database) : Prop := Sound db.tables ∧ Peopled db.tables
  have hempty : P {} := ⟨sound_empty, nofun⟩
  refine serveAll_induction (P := P) (fun a _ db h => ?_) hempty
  exact ⟨serve_of_calls hcalls a h.1, (chatsFollow_serve config db h.1 a).peopled h.2⟩

/-- As a run of requests goes on, nobody comes into a chat that is there, and deleted chats stay. -/
theorem shrinks_serveAll (config : Config) (hsound : Sound db.tables) (later : List Arrival) :
    Shrinks db.tables (serveAll config db later).tables ∧
      Retains db.tables (serveAll config db later).tables := by
  have hcalls : KeptByCalls fun db' => Sound db'.tables ∧ Retains db.tables db'.tables :=
    fun call now db' h =>
      have heffect := effect_perform now db' call
      ⟨sound_of_effect h.1 heffect, h.2.trans (retains_of_effect h.1 heffect)⟩
  let P (db' : Database) : Prop :=
    (Sound db'.tables ∧ Retains db.tables db'.tables) ∧ Shrinks db.tables db'.tables
  have hrun : P (serveAll config db later) := by
    refine serveAll_induction (fun a _ db' h => ?_) ⟨⟨hsound, retains_refl _⟩, shrinks_refl _⟩
    exact ⟨serve_of_calls hcalls a h.1, h.2.trans (chatsFollow_serve config db' h.1.1 a).shrinks⟩
  exact ⟨hrun.2, hrun.1.2⟩

/-- The life of the chats of a service that has served a run of requests, and goes on. -/
structure ChatLives (config : Config) (run : List Arrival) : Prop where
  live_iff : ∀ chat ∈ (serveAll config {} run).tables.chats, chat.entry.isLive = true ↔
    (participants (serveAll config {} run).tables chat.entry.id).Nonempty
  follows : ∀ a, ChatsFollow config (serveAll config {} run) a
  subset : ∀ later, ∀ chat ∈ (serveAll config {} run).tables.chats,
    participants (serveAll config {} (run ++ later)).tables chat.entry.id ⊆
      participants (serveAll config {} run).tables chat.entry.id
  deleted : ∀ later, ∀ chat ∈ (serveAll config {} run).tables.chats, chat.entry.isDeleted = true →
    chat ∈ (serveAll config {} (run ++ later)).tables.chats ∧
      participants (serveAll config {} (run ++ later)).tables chat.entry.id = ∅
  /-- Who has left a chat stays shut out of it. -/
  left : ∀ a later caller chatId, a.Asks config .leaveChat caller chatId →
    ((serveAll config {} run).reply config a).status < 400 →
      (serveAll config {} (run ++ a :: later)).IsShutOut caller.userId chatId

/-- **The life of a chat.** After every run of requests, a chat is live if and only if somebody takes part
in it. A request that opens a chat opens it for its caller and for those whom it names; a request to leave
a chat takes its caller out of it, and deletes the chat if that was the last one; no other request does
anything to a chat. So a chat only ever loses users, a deleted chat stays deleted, and who has left a chat
never gets it again, lists, sends or changes messages in it, leaves it once more or finds it among their
chats. -/
theorem chat_lifecycle (config : Config) (run : List Arrival) : ChatLives config run := by
  obtain ⟨hsound, hpeopled⟩ := peopled_serveAll config run
  constructor
  case live_iff => exact hpeopled
  case follows => exact fun a => chatsFollow_serve config _ hsound a
  case subset =>
    intro later chat hchat
    rw [serveAll_append]
    exact (shrinks_serveAll config hsound later).1.participants _ (List.mem_map_of_mem hchat)
  case deleted =>
    intro later chat hchat hdeleted
    have hdead := Entry.isLive_of_isDeleted hdeleted
    have hnobody : participants (serveAll config {} run).tables chat.entry.id = ∅ := by
      rw [← Finset.not_nonempty_iff_eq_empty, ← hpeopled chat hchat, hdead]
      exact Bool.false_ne_true
    rw [serveAll_append]
    obtain ⟨hshrinks, hretains⟩ := shrinks_serveAll config hsound later
    refine ⟨hretains .chats chat hchat hdead, ?_⟩
    rw [← Finset.subset_empty, ← hnobody]
    exact hshrinks.participants _ (List.mem_map_of_mem hchat)
  -- the user is out after the step, and nothing later lets him in again
  case left =>
    intro a later caller chatId hasks hstatus
    have hfollows := chatsFollow_serve config _ hsound a
    obtain ⟨chat, rfl, hleaves⟩ := hfollows.leaving caller chatId hasks hstatus
    have hout : caller.userId ∉
        participants ((serveAll config {} run).serve config a).tables chat.entry.id := by
      rw [hleaves.participants, Function.update_self]
      exact Finset.notMem_erase _ _
    have hafter : Sound (serveAll config {} (run ++ [a])).tables := (peopled_serveAll config _).1
    rw [serveAll_append] at hafter
    have hshrinks := (shrinks_serveAll config hafter later).1
    have hthere : chat.entry.id ∈ ids Chat ((serveAll config {} run).serve config a).tables :=
      hfollows.shrinks.ids (List.mem_map_of_mem hleaves.mem)
    have hlater : Sound (serveAll config {} (run ++ a :: later)).tables := (peopled_serveAll config _).1
    refine isShutOut_of_notMem (hlater .messages).keys fun hpart => hout ?_
    rw [serveAll_append] at hpart
    exact hshrinks.participants _ hthere hpart

end Database

end Fostering
