import Fostering.Proofs.Memory.Chats

/-!
# Messages in both stores

What the service does to messages it does alike in the database and in memory: messages that are the same are
sent, listed, changed and deleted, or refused for the same cause.
-/

namespace Fostering

variable {users : List Int} {names : Names} {db : Database} {mem : Memory} {now now' : Instant}
  {actor i i' : Int}

/-! ## Messages that are the same -/

/-- Messages that are the same have one sender. -/
theorem Message.Same.senderId_eq {chats : List (Int × Int)} {m m' : Message} (h : m.Same chats m') :
    m.senderId = m'.senderId := by
  have hsender := congrArg Message.senderId h.row.rest
  exact hsender

/-- A change makes the same of messages that are the same. -/
theorem Message.Same.apply {chats : List (Int × Int)} {m m' : Message} (h : m.Same chats m')
    (request : UpdateMessage) {e e' : Entry} (hdeleted : e.isDeleted = e'.isDeleted) :
    ({ request.apply m with entry := e } : Message).Same chats { request.apply m' with entry := e' } :=
  ⟨h.chat, hdeleted, congrArg request.apply h.row.rest⟩

/-- A message that a user sends is the same in both stores. -/
theorem Simulates.addMessage (h : Simulates users names db mem) {m m' : Message}
    (hid : m.entry.id = db.sequences.messages + 1) (hid' : m'.entry.id = mem.lastId + 1)
    (hkept : Message.KeptAs names.chats m m') :
    Simulates users (names.addMessage m.entry.id m'.entry.id)
      { db with
        tables := Database.addRow m db.tables
        sequences := { db.sequences with messages := db.sequences.messages + 1 } }
      { mem with lastId := mem.lastId + 1, messages := mem.messages ++ [m'] } where
  users := h.users
  posts := h.posts.skip
  reports := h.reports.skip
  chats := h.chats.skip
  members := h.members
  messages := h.messages.append hid hid' hkept

namespace Messages

/-- A message is sent in both stores, or in none. -/
theorem couples_send (h : Simulates users names db mem) (hactor : actor ∈ users)
    (hi : Refers names.chats i i') {request : SendMessage} (hplain : Request.OfPlain request)
    (hnow : now.isStorable = true) :
    Op.Couples (Refused users names) now now' (send actor i request : Op Database Message)
      (send actor i' request : Op Memory Message) db mem fun m m' db' mem' =>
        m.Alike (names.addMessage m.entry.id m'.entry.id) m' ∧
          Simulates users (names.addMessage m.entry.id m'.entry.id) db' mem' := by
  refine (Chats.couples_findAsMember h hi).bind_reads fun c c' ⟨hfound, _⟩ => ?_
  refine .after ?_ (exec_stamped _ now db) (exec_stamped _ now' mem)
  let given : Message := HasEntry.modifyEntry (·.stamped now) (request.toMessage i actor)
  let given' : Message := HasEntry.modifyEntry (·.stamped now') (request.toMessage i' actor)
  let stored : Message := Table.setId (db.sequences.messages + 1) (Database.draft given)
  let kept : Message := HasEntry.modifyEntry ({ · with id := mem.lastId + 1 }) given'
  have hid : stored.entry.id = db.sequences.messages + 1 := rfl
  have hid' : kept.entry.id = mem.lastId + 1 := rfl
  have hsound : IsSound stored := ⟨SendMessage.hasStorableTexts hplain i actor, rfl⟩
  have hsame : Message.Same names.chats stored kept := ⟨hfound.1.made, rfl, rfl⟩
  have hstorable : Schema.isStorable (Database.draft given) = true :=
    isStorable_of hsound.texts (isStorable_new hnow rfl)
  have hchat : Schema.hasId db.tables.chats i = true :=
    Schema.hasId_iff.mpr (List.mem_map.mpr ⟨c.chat, hfound.1.mem, hfound.1.key_and.1⟩)
  have hinsertable : Database.IsInsertable db.tables stored :=
    { holds := rfl
      clash := rfl
      unused := h.messages.unused hid
      orphan := (if_pos hchat).trans (h.users.missingUser?_eq_none hactor _ _) }
  have hmem : (stored.entry.id, kept.entry.id) ∈ (names.addMessage stored.entry.id kept.entry.id).messages :=
    List.mem_append_right _ (List.mem_singleton_self _)
  exact Op.couples_of_exec (Database.insert_of_isInsertable _ now hstorable rfl hinsertable)
    (Memory.exec_create rfl) ⟨⟨hmem, hsame⟩, h.addMessage hid hid' ⟨hsame, hsound⟩⟩

/-- Both stores list the same messages. -/
theorem couples_list (h : Simulates users names db mem) (hi : Refers names.chats i i') (actor : Int)
    (sort : Option String) (defaults : DefaultOrder) :
    Op.CouplesPages (Refused users names) now now' Page.slice Page.slice
      (fun page => (list actor i sort page defaults : Op Database (List Message)))
      (fun page => (list actor i' sort page defaults : Op Memory (List Message))) db mem
      fun ms ms' db' mem' => ListsAlike (Message.Alike names) ms ms' ∧ Simulates users names db' mem' := by
  have horder (e : Error) (he : ListOrder.forRequest sort Message.sortFields defaults = .error e) :
      Refused users names e e db mem := by
    obtain ⟨message, rfl⟩ := ListOrder.cause_of_forRequest he
    exact ⟨.same nofun, h⟩
  refine .after_reads (Op.couples_ofExcept _ horder) ?_
  rintro ⟨column, direction⟩ _ ⟨rfl, hresolved⟩
  refine .after_reads (Chats.couples_findAsMember h hi) fun _ _ _ => ?_
  have hmem := ListOrder.column_mem_of_resolve (ListOrder.resolve_of_forRequest hresolved)
  obtain ⟨key, hkey⟩ := Option.isSome_iff_exists.mp (Message.hasColumns column hmem)
  have htexts : ∀ text ∈ Filter.texts Message (⟨i⟩ : MessageFilter), '\x00' ∉ text.toList := nofun
  have hkeeps (m m' : Message) (hm : Message.KeptAs names.chats m m') :
      Filter.keeps (⟨i⟩ : MessageFilter) m = decide (m'.chatId = i') :=
    decide_eq_decide.mpr (h.chats.oneToOne.eq_iff hi hm.same.chat)
  have hlisted := h.listed (ρ := Message) hkeeps direction key HasEntry.id
  refine Op.couplesPages_of_exec (fun page => exec_list htexts hkey direction page now) (fun _ => rfl) ⟨?_, h⟩
  exact hlisted.imp fun m m' hm => ⟨hm.1, hm.2.same⟩

/-- A message is changed in both stores, or in none. -/
theorem couples_update (h : Simulates users names db mem) (hi : Refers names.messages i i')
    {request : UpdateMessage} (hplain : Request.OfPlain request) :
    Op.Couples (Refused users names) now now' (update actor i request : Op Database Message)
      (update actor i' request : Op Memory Message) db mem fun m m' db' mem' =>
        m.Alike names m' ∧ Simulates users names db' mem' := by
  refine (h.find (ρ := Message) hi).bind_reads fun m m' hfound => ?_
  obtain ⟨hsame, hsound⟩ := hfound.matched.2
  refine (h.ensureOwner hsame.senderId_eq "Message").bind_reads fun _ _ _ => ?_
  refine (Chats.couples_findAsMember h (.made hsame.chat)).bind_reads fun _ _ _ => ?_
  refine .after ?_ (exec_touched _ now db) (exec_touched _ now' mem)
  let given : Message := HasEntry.modifyEntry (·.touched now) (request.apply m)
  let given' : Message := HasEntry.modifyEntry (·.touched now') (request.apply m')
  have htexts : HasStorableTexts given := UpdateMessage.hasStorableTexts hplain hsound.texts
  have hstorable : Schema.isStorable (Editable.overwrite given default) = true :=
    isStorable_of htexts isStorable_unset
  have hrow : Database.IsAdmissible db.tables (Database.changed given m now) := ⟨rfl, rfl⟩
  have hkept : Message.KeptAs names.chats (Database.changed given m now)
      (HasEntry.modifyEntry (·.touched now') given') :=
    ⟨hsame.apply request hsame.row.isDeleted, htexts, rfl⟩
  have hid : Table.id given = i := hfound.key_and.1
  have hid' : HasEntry.id given' = i' := hfound.key_and'.1
  refine (h.update hfound hid hid' hstorable hrow hkept).mono ?_
  rintro s s' db' mem' ⟨hmatch, hafter⟩
  exact ⟨⟨hmatch.1, hmatch.2.same⟩, hafter⟩

/-- A message is deleted in both stores, or in none. -/
theorem couples_delete (h : Simulates users names db mem) (hi : Refers names.messages i i') :
    Op.Couples (Refused users names) now now' (delete actor i : Op Database Unit)
      (delete actor i' : Op Memory Unit) db mem fun _ _ db' mem' => Simulates users names db' mem' := by
  refine (h.find (ρ := Message) hi).bind_reads fun m m' hfound => ?_
  refine (h.ensureOwner hfound.matched.2.same.senderId_eq "Message").bind_reads fun _ _ _ => ?_
  exact h.delete hfound

end Messages

end Fostering
