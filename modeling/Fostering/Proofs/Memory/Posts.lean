import Fostering.Proofs.Listing.Partition
import Fostering.Proofs.Memory.Simulation

/-!
# Posts in both stores

What the service does to posts it does alike in the database and in memory: posts that are the same are
written, shown, listed, changed and deleted, or refused for the same cause.

* `Simulates.addPost`: the stores stay in step when posts that are the same are added.
* `Posts.couples_create` and so on: what the service does.
-/

namespace Fostering

variable {users : List Int} {names : Names} {db : Database} {mem : Memory} {now now' : Instant}
  {actor i i' : Int}

/-! ## Posts that are the same -/

namespace SameRow

variable {p p' : Post} (h : SameRow p p')

include h

/-- Posts that are alike have one author. -/
theorem authorId_eq : p.authorId = p'.authorId := by
  have hauthor := congrArg Post.authorId h.rest
  exact hauthor

/-- Posts that are alike have one status. -/
theorem status_eq : p.status = p'.status := by
  have hstatus := congrArg Post.status h.rest
  exact hstatus

/-- A viewer sees posts that are the same, or none of them. -/
theorem sees_eq (viewer : Viewer) : viewer.sees p = viewer.sees p' := by
  unfold Viewer.sees
  rw [h.authorId_eq, h.status_eq]

end SameRow

/-- A post that a user writes is the same in both stores. -/
theorem Simulates.addPost (h : Simulates users names db mem) {p p' : Post}
    (hid : p.entry.id = db.sequences.posts + 1) (hid' : p'.entry.id = mem.lastId + 1)
    (hkept : Post.KeptAs p p') :
    Simulates users (names.addPost p.entry.id p'.entry.id)
      { db with
        tables := Database.addRow p db.tables
        sequences := { db.sequences with posts := db.sequences.posts + 1 } }
      { mem with lastId := mem.lastId + 1, posts := mem.posts ++ [p'] } where
  users := h.users
  posts := h.posts.append hid hid' hkept
  reports := (h.reports.imp fun _ _ _ hr => { hr with post := List.mem_append_left _ hr.post }).skip
  chats := h.chats.skip
  members := h.members
  messages := h.messages.skip

namespace Posts

/-- A post is made in both stores, or in none. -/
theorem couples_create (h : Simulates users names db mem) (hactor : actor ∈ users) {request : CreatePost}
    (hplain : Request.OfPlain request) (hnow : now.isStorable = true) :
    Op.Couples (Refused users names) now now' (create actor request : Op Database Post)
      (create actor request : Op Memory Post) db mem fun p p' db' mem' =>
        p.Alike (names.addPost p.entry.id p'.entry.id) p' ∧
          Simulates users (names.addPost p.entry.id p'.entry.id) db' mem' := by
  have hcause (e : Error) (he : firstStatus (request.toPost actor).status = .error e) :
      Refused users names e e db mem := by
    obtain ⟨message, rfl | rfl⟩ := cause_of_firstStatus he <;> exact ⟨.same nofun, h⟩
  refine (Op.couples_ofExcept _ hcause).bind_reads ?_
  rintro status _ ⟨rfl, hstatus⟩
  refine .after ?_ (exec_stamped _ now db) (exec_stamped _ now' mem)
  -- the post as each store keeps it
  let stored : Post := Table.setId (db.sequences.posts + 1) (Database.draft (written actor request status now))
  let kept : Post := HasEntry.modifyEntry ({ · with id := mem.lastId + 1 }) (written actor request status now')
  have hid : stored.entry.id = db.sequences.posts + 1 := rfl
  have hid' : kept.entry.id = mem.lastId + 1 := rfl
  have htexts : HasStorableTexts stored :=
    CreatePost.hasStorableTexts hplain actor status.isStorableText_name
  have hsound : IsSound stored := ⟨htexts, (isSettable_of_firstStatus hstatus).isSome_ofName?⟩
  have hsame : SameRow stored kept := ⟨rfl, rfl⟩
  have hinsertable : Database.IsInsertable db.tables stored :=
    { holds := hsound.holds
      clash := rfl
      unused := h.posts.unused hid
      orphan := h.users.missingUser?_eq_none hactor _ _ }
  have hstorable : Schema.isStorable (Database.draft (written actor request status now)) = true :=
    isStorable_of htexts (isStorable_new hnow rfl)
  refine Op.couples_of_exec (Database.insert_of_isInsertable _ now hstorable rfl hinsertable)
    (Memory.exec_create rfl) ⟨⟨?_, hsame⟩, h.addPost hid hid' ⟨hsame, hsound⟩⟩
  exact List.mem_append_right _ (List.mem_singleton_self _)

/-- Both stores show the same post to a viewer, or none. -/
theorem couples_get (h : Simulates users names db mem) (hi : Refers names.posts i i') (viewer : Viewer) :
    Op.Couples (Refused users names) now now' (get viewer i : Op Database Post)
      (get viewer i' : Op Memory Post) db mem fun p p' db' mem' =>
        p.Alike names p' ∧ Simulates users names db' mem' := by
  refine (h.find (ρ := Post) hi).bind_reads fun p p' hfound => ?_
  have hsees : viewer.sees p = viewer.sees p' := hfound.matched.2.same.sees_eq viewer
  refine (Op.couples_guard hsees ⟨.post hi, h⟩).bind_reads fun _ _ _ => ?_
  exact Op.couples_pure ⟨⟨hfound.matched.1, hfound.matched.2.same⟩, h⟩

/-- A post is changed in both stores, or in none. -/
theorem couples_update (h : Simulates users names db mem) (hi : Refers names.posts i i')
    {request : UpdatePost} (hplain : Request.OfPlain request) :
    Op.Couples (Refused users names) now now' (update actor i request : Op Database Post)
      (update actor i' request : Op Memory Post) db mem fun p p' db' mem' =>
        p.Alike names p' ∧ Simulates users names db' mem' := by
  refine (h.find (ρ := Post) hi).bind_reads fun p p' hfound => ?_
  obtain ⟨hsame, hsound⟩ := hfound.matched.2
  refine (h.ensureOwner hsame.authorId_eq "Post").bind_reads fun _ _ _ => ?_
  have hfree : decide (p.status ≠ PostStatus.blocked.name) = decide (p'.status ≠ PostStatus.blocked.name) := by
    rw [hsame.status_eq]
  refine (Op.couples_guard hfree ⟨.same nofun, h⟩).bind_reads fun _ _ _ => ?_
  have hcause (e : Error) (he : request.status.value?.mapM authorStatus = .error e) :
      Refused users names e e db mem := by
    obtain ⟨message, rfl | rfl⟩ := cause_of_mapM he <;> exact ⟨.same nofun, h⟩
  refine (Op.couples_ofExcept _ hcause).bind_reads fun status? _ hstatus => ?_
  have hasks : AsksSettable request := asksSettable_of_mapM hstatus.2
  refine .after ?_ (exec_touched _ now db) (exec_touched _ now' mem)
  have htexts : HasStorableTexts (revised p request now) := UpdatePost.hasStorableTexts hplain hsound.texts
  have hstorable : Schema.isStorable (Editable.overwrite (revised p request now) default) = true :=
    isStorable_of htexts isStorable_unset
  have hnamed : (PostStatus.ofName? (revised p request now).status).isSome = true := by
    rcases status_revised p hasks now with hkept | hset
    · rw [hkept]
      exact hsound.holds
    · exact hset.isSome_ofName?
  have hrow : Database.IsAdmissible db.tables (Database.changed (revised p request now) p now) := ⟨hnamed, rfl⟩
  have hkept : Post.KeptAs (Database.changed (revised p request now) p now)
      (HasEntry.modifyEntry (·.touched now') (revised p' request now')) :=
    ⟨⟨hsame.isDeleted, congrArg request.apply hsame.rest⟩, htexts, hnamed⟩
  have hid : Table.id (revised p request now) = i := hfound.key_and.1
  have hid' : HasEntry.id (revised p' request now') = i' := hfound.key_and'.1
  refine (h.update hfound hid hid' hstorable hrow hkept).mono ?_
  rintro q q' db' mem' ⟨hmatch, hafter⟩
  exact ⟨⟨hmatch.1, hmatch.2.same⟩, hafter⟩

/-- A post is deleted in both stores, or in none. -/
theorem couples_delete (h : Simulates users names db mem) (hi : Refers names.posts i i') :
    Op.Couples (Refused users names) now now' (delete actor i : Op Database Unit)
      (delete actor i' : Op Memory Unit) db mem fun _ _ db' mem' => Simulates users names db' mem' := by
  refine (h.find (ρ := Post) hi).bind_reads fun p p' hfound => ?_
  refine (h.ensureOwner hfound.matched.2.same.authorId_eq "Post").bind_reads fun _ _ _ => ?_
  exact h.delete hfound

/-- A filter keeps posts that are the same, or none of them. -/
theorem keeps_eq {p p' : Post} (h : SameRow p p') (filter : PostFilter) :
    Filter.keeps filter p =
      (filter.authorId.all (p'.authorId = ·) && filter.status.all (p'.status = ·)
        && (filter.city.isNone || p'.city = filter.city)
        && (filter.animalType.isNone || p'.animalType = filter.animalType)
        && filter.visibleTo.all fun viewer =>
          p'.authorId = viewer || p'.status = PostStatus.published.name) := by
  have hcity : p.city = p'.city := by
    have hcity := congrArg Post.city h.rest
    exact hcity
  have hkind : p.animalType = p'.animalType := by
    have hkind := congrArg Post.animalType h.rest
    exact hkind
  have hvisible (viewer : Int) :
      (decide (p'.status = PostStatus.published.name) || decide (p'.authorId = viewer)) =
        (decide (p'.authorId = viewer) || decide (p'.status = PostStatus.published.name)) := Bool.or_comm _ _
  simp only [Filter.keeps, Filter.agrees, Filter.agrees?, h.authorId_eq, h.status_eq, hcity, hkind, hvisible]

/-- Both stores list the same posts for a viewer. -/
theorem couples_list (h : Simulates users names db mem) (viewer : Viewer) {filter : PostFilter}
    (hplain : ∀ text ∈ Filter.texts Post filter, '\x00' ∉ text.toList) (sort : Option String)
    (defaults : DefaultOrder) :
    Op.CouplesPages (Refused users names) now now' Page.slice Page.slice
      (fun page => (list viewer filter sort page defaults : Op Database (List Post)))
      (fun page => (list viewer filter sort page defaults : Op Memory (List Post))) db mem
      fun ps ps' db' mem' => ListsAlike (Post.Alike names) ps ps' ∧ Simulates users names db' mem' := by
  have hstatus (e : Error) (he : filter.status.mapM PostStatus.read = .error e) :
      Refused users names e e db mem := by
    obtain ⟨message, rfl⟩ := cause_of_filter he
    exact ⟨.same nofun, h⟩
  have horder (e : Error) (he : ListOrder.forRequest sort Post.sortFields defaults = .error e) :
      Refused users names e e db mem := by
    obtain ⟨message, rfl⟩ := ListOrder.cause_of_forRequest he
    exact ⟨.same nofun, h⟩
  refine .after_reads (Op.couples_ofExcept _ hstatus) fun _ _ _ => ?_
  refine .after_reads (Op.couples_ofExcept _ horder) ?_
  rintro ⟨column, direction⟩ _ ⟨rfl, hresolved⟩
  have hmem := ListOrder.column_mem_of_resolve (ListOrder.resolve_of_forRequest hresolved)
  obtain ⟨key, hkey⟩ := Option.isSome_iff_exists.mp (Post.hasColumns column hmem)
  let shown : PostFilter := { filter with visibleTo := viewer.restriction }
  have hshown : ∀ text ∈ Filter.texts Post shown, '\x00' ∉ text.toList := hplain
  refine Op.couplesPages_of_exec (fun page => exec_list hshown hkey direction page now) (fun page => rfl) ⟨?_, h⟩
  have hlisted := h.listed (ρ := Post) (fun p p' (hp : Post.KeptAs p p') => keeps_eq hp.same shown) direction
    key HasEntry.id
  exact hlisted.imp fun p p' hp => ⟨hp.1, hp.2.same⟩

end Posts

end Fostering
