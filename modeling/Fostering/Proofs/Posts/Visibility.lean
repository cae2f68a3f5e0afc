import Fostering.Proofs.Listing.Partition

/-!
# What is seen of posts

Who may see a post is asked in two places: whoever gets a post is asked by `Viewer.sees`, and a list is
kept to a viewer by a condition of its filter. They agree on every post. So a list shows what its viewer
gets one by one, whatever the client asks for.

* `Posts.gets_iff`: what a viewer gets.
* `Posts.gets_of_list`: a list shows nothing that its viewer does not get.
* `lists_what_is_seen`: a list shows all that its viewer gets and that the client asks for.
-/

namespace Fostering

open Database
open SortKey (Precedes)

variable {db : Database} {viewer : Viewer}

/-- What a client asks for, whoever looks. -/
def PostFilter.asked (f : PostFilter) : PostFilter := { f with visibleTo := none }

/-- A list is kept to the posts that its viewer may see. -/
theorem Viewer.sees_iff {p : Post} : viewer.sees p = true ↔
    ∀ userId ∈ viewer.restriction, p.status = PostStatus.published.name ∨ p.authorId = userId := by
  unfold sees restriction
  cases viewer.isModerator with
  | false => simp [or_comm]
  | true => simp

/-- What a list has to match that is kept to a viewer. -/
theorem PostFilter.matches_restricted_iff {f : PostFilter} {p : Post} :
    ({ f with visibleTo := viewer.restriction } : PostFilter).Matches p ↔
      viewer.sees p = true ∧ f.asked.Matches p := by
  rw [Viewer.sees_iff]
  constructor
  · exact fun h => ⟨h.visible, h.authorId, h.status, h.city, h.animalType, nofun⟩
  · exact fun h => ⟨h.2.authorId, h.2.status, h.2.city, h.2.animalType, h.1⟩

namespace Posts

/-- A viewer gets a post at any time. -/
def Gets (db : Database) (viewer : Viewer) (p : Post) : Prop :=
  ∀ now, (Posts.get viewer p.entry.id).exec now db = (.ok p, db)

/-- Getting a post is refused, or what comes is a live post that the viewer may see. -/
theorem get_cases (viewer : Viewer) (id : Int) (now : Instant) (db : Database) :
    (∃ cause, (get viewer id : Op Database Post).exec now db = (.error cause, db)) ∨
      ∃ p ∈ db.tables.posts, p.entry.isLive = true ∧ viewer.sees p = true ∧
        (get viewer id : Op Database Post).exec now db = (.ok p, db) := by
  unfold get
  rcases Database.find_cases Post id now db with ⟨p, hmem, -, hlive, hfind⟩ | ⟨-, hfind⟩
  · have hfound : (Store.Records.find id : Op Database Post).exec now db = (.ok p, db) := hfind
    rw [Op.exec_bind_ok hfound]
    rcases hsees : viewer.sees p
    · exact .inl ⟨_, Op.exec_bind_error (Op.exec_guard_of_false rfl _ _ _)⟩
    · exact .inr ⟨p, hmem, hlive, hsees, Op.exec_bind_ok (Op.exec_guard_of_true rfl _ _ _)⟩
  · have hmissing : (Store.Records.find id : Op Database Post).exec now db =
        (.error (notFound Post id), db) := hfind
    exact .inl ⟨_, Op.exec_bind_error hmissing⟩

/-- **A viewer gets the live posts that they may see.** -/
theorem gets_iff (hids : (ids Post db.tables).Nodup) {p : Post} : Gets db viewer p ↔
    p ∈ db.tables.posts ∧ p.entry.isLive = true ∧ viewer.sees p = true := by
  constructor
  · intro h
    have hget := h ⟨0, 0⟩
    rcases get_cases viewer p.entry.id ⟨0, 0⟩ db with ⟨cause, heq⟩ | ⟨q, hmem, hlive, hsees, heq⟩
    · rw [heq] at hget
      cases hget
    · rw [heq] at hget
      cases hget
      exact ⟨hmem, hlive, hsees⟩
  · rintro ⟨hmem, hlive, hsees⟩ now
    have hfind : (Store.Records.find p.entry.id : Op Database Post).exec now db = (.ok p, db) :=
      find_of_nodup hids hmem hlive now
    have hguard := Op.exec_guard_of_true hsees (.notFound "Post" p.entry.id) now db
    unfold get
    rw [Op.exec_bind_ok hfind, Op.exec_bind_ok hguard]
    rfl

section

variable {filter : PostFilter} {sort : Option String} {defaults : DefaultOrder} {page : Page}
  {now : Instant}

/-- A list with a status that there is, in an order that there is, is a list of the store that is kept to
its viewer. -/
theorem exec_list {order : ListOrder} (hstatus : ∀ s ∈ filter.status, ∃ status : PostStatus, status.name = s)
    (horder : ListOrder.forRequest sort Post.sortFields defaults = .ok order) :
    (list viewer filter sort page defaults : Op Database (List Post)).exec now db =
      (Database.list { filter with visibleTo := viewer.restriction } order page).exec now db := by
  obtain ⟨status?, hread⟩ : ∃ status?, filter.status.mapM PostStatus.read = .ok status? := by
    rcases hasked : filter.status with _ | s
    · exact ⟨none, rfl⟩
    · obtain ⟨status, rfl⟩ := hstatus s hasked
      have hname : PostStatus.read status.name = .ok status := by
        rw [PostStatus.read, PostStatus.ofName?_name]
      exact ⟨some status, by rw [Option.mapM_some, hname]; rfl⟩
  have hreads : (Op.ofExcept (filter.status.mapM PostStatus.read) : Op Database _).exec now db =
      (.ok status?, db) := by
    rw [Op.exec_ofExcept, hread]
  have horders : (Op.ofExcept (ListOrder.forRequest sort Post.sortFields defaults) :
      Op Database _).exec now db = (.ok order, db) := by
    rw [Op.exec_ofExcept, horder]
  unfold list
  rw [Op.exec_bind_ok hreads, Op.exec_bind_ok horders]
  rfl

/-- A list that comes is one of the store that is kept to its viewer. -/
theorem list_cases {posts : List Post}
    (h : ((list viewer filter sort page defaults : Op Database (List Post)).exec now db).1 = .ok posts) :
    ∃ order, ((Database.list { filter with visibleTo := viewer.restriction } order page).exec now db).1 =
      .ok posts := by
  unfold list at h
  rcases hstatus : filter.status.mapM PostStatus.read with cause | status?
  · rw [hstatus] at h
    cases h
  · rw [hstatus, Op.exec_bind_ok (Op.exec_ofExcept (.ok status?) now db)] at h
    rcases horder : ListOrder.forRequest sort Post.sortFields defaults with cause | order
    · rw [horder] at h
      cases h
    · rw [horder, Op.exec_bind_ok (Op.exec_ofExcept (.ok order) now db)] at h
      exact ⟨order, h⟩

/-- **A list shows nothing that its viewer does not get.** -/
theorem gets_of_list (hids : (ids Post db.tables).Nodup) {posts : List Post}
    (h : ((list viewer filter sort page defaults : Op Database (List Post)).exec now db).1 = .ok posts) :
    ∀ p ∈ posts, Gets db viewer p := by
  intro p hp
  obtain ⟨order, hlist⟩ := list_cases h
  obtain ⟨hmem, hlive, hkept⟩ := kept_of_list hlist p hp
  exact (gets_iff hids).mpr
    ⟨hmem, hlive, (PostFilter.matches_restricted_iff.mp (PostFilter.keeps_iff.mp hkept)).1⟩

end

end Posts

/-- What a viewer is shown of posts. -/
structure ShowsWhatIsSeen (db : Database) : Prop where
  /-- A list shows the posts that its viewer gets and that the client asks for, each once and in the order
  that the client asks for. -/
  lists : ∀ (viewer : Viewer) (filter : PostFilter) (sort : Option String) (defaults : DefaultOrder)
    (order : ListOrder), (∀ s ∈ filter.status, ∃ status : PostStatus, status.name = s) →
      (∀ text ∈ Filter.texts Post filter, '\x00' ∉ text.toList) →
        ListOrder.forRequest sort Post.sortFields defaults = .ok order →
          ∃ (key : Post → SortKey) (rows : List Post), Columns.column? order.column = some key ∧
            Lists (fun page => Posts.list viewer filter sort page defaults) db
              (fun p => Posts.Gets db viewer p ∧ filter.asked.Matches p)
              (fun p q => Precedes order.direction (key p, p.entry.id) (key q, q.entry.id)) rows
  /-- The two rules agree on every post. -/
  agree : ∀ (viewer : Viewer) (p : Post),
    Filter.keeps ({ visibleTo := viewer.restriction } : PostFilter) p = viewer.sees p
  /-- Whatever a request says, it shows what its caller gets. -/
  requests : ∀ (x : Exchange) (caller : Caller), x.caller = .ok caller →
    Plans (fun action => ∃ read : Op Database (List Post), action = Action.showsAll Post.view read ∧
      ∀ now posts, (read.exec now db).1 = .ok posts → ∀ p ∈ posts, Posts.Gets db caller.viewer p)
      (x.plan .listPosts)
  /-- Moderators get every live post. -/
  moderators : ∀ viewer : Viewer, viewer.isModerator = true → ∀ p ∈ db.tables.posts,
    p.entry.isLive = true → Posts.Gets db viewer p

/-- **A list shows what its viewer sees.** All pages of a list together show exactly the posts that its
viewer gets one by one and that the client asks for, each once. The rule for lists and the rule for single
posts agree on every post; no request shows more than its caller gets; and moderators get every live
post. -/
theorem lists_what_is_seen (db : Database) (hids : (ids Post db.tables).Nodup) : ShowsWhatIsSeen db where
  lists viewer filter sort defaults order hstatus htexts horder := by
    have hresolve := ListOrder.resolve_of_forRequest horder
    have hsorted : ListsSorted Post.sortFields PostFilter.Matches db Database.list :=
      lists_sorted Post.hasColumns (by decide) PostFilter.keeps_iff hids
    obtain ⟨key, rows, hkey, hlists, -⟩ :=
      hsorted { filter with visibleTo := viewer.restriction } htexts sort defaults order hresolve
    refine ⟨key, rows order.direction, hkey, (hlists order.direction).congr (fun page now => ?_) fun p => ?_⟩
    · exact Posts.exec_list hstatus horder
    · rw [PostFilter.matches_restricted_iff, Posts.gets_iff hids, and_assoc, and_assoc]
      exact Iff.rfl
  agree viewer p := by
    rw [Bool.eq_iff_iff, PostFilter.keeps_iff]
    refine (PostFilter.matches_restricted_iff (f := {})).trans (and_iff_left ?_)
    exact ⟨nofun, nofun, nofun, nofun, nofun⟩
  requests x caller hcaller := by
    refine .reading fun caller' hcaller' => .read fun params => .read fun filter => .ok ⟨_, rfl, ?_⟩
    obtain rfl : caller' = caller := Except.ok.inj (hcaller'.symm.trans hcaller)
    exact fun now posts h => Posts.gets_of_list hids h
  moderators viewer hmoderator p hmem hlive := by
    refine (Posts.gets_iff hids).mpr ⟨hmem, hlive, ?_⟩
    unfold Viewer.sees
    rw [hmoderator]
    rfl

/-- So it is with the kitten. -/
theorem lists_what_is_seen_kitten :
    (ids Post (after kitten).tables).Nodup ∧ ShowsWhatIsSeen (after kitten) := by
  have hids : (ids Post (after kitten).tables).Nodup := (isSound_after kitten .posts).keys
  exact ⟨hids, lists_what_is_seen (after kitten) hids⟩

end Fostering
