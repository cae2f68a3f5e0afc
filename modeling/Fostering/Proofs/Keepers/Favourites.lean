import Mathlib.Logic.Function.Basic
import Fostering.Proofs.Keepers.Reviewing
import Fostering.Proofs.Listing.Partition

/-!
# Marks on keepers

What marks are, without a table of them: since when each user has been marking each keeper (`Marks`).
Users wish to mark keepers and to take marks back (`Wish`), by a call of the store or by a request. A wish
to mark is granted if the keeper is live and the user is there, and a keeper who is marked already stays
marked since the first time. A mark is taken back whether or not the keeper is still there
(`Marks.grant`). Nothing else that happens is about marks.

Beside every run goes what its wishes come to (`Database.marksAfter`), and the table of marks is that, row
by row (`Database.isOf_after`). So whatever users are told of marks can be told from the run.

* `Marks.IsOf.grant`: what a wish does to the table.
* `Database.serve_of_wish`, `Database.favourites_serve_of_idle`: what a request does to it.
* `Database.governs_marksAfter`: who succeeds with a wish, what comes of it, and which keepers are listed.
-/

namespace Fostering

open Database
open SortKey (Precedes)

/-! ## Wishes -/

/-- A user wishes to mark a keeper, or to take the mark back. -/
inductive Wish where
  | mark (userId keeperId : Int)
  | unmark (userId keeperId : Int)
  deriving DecidableEq

/-- The user and the keeper. -/
def Wish.pair : Wish → Int × Int
  | .mark userId keeperId | .unmark userId keeperId => (userId, keeperId)

/-- The call that a wish is. -/
def Wish.call : Wish → Store.Call
  | .mark userId keeperId => .addFavourite userId keeperId
  | .unmark userId keeperId => .removeFavourite userId keeperId

/-- The wish that a call is. -/
def Store.Call.wish? : Store.Call → Option Wish
  | .addFavourite userId keeperId => some (.mark userId keeperId)
  | .removeFavourite userId keeperId => some (.unmark userId keeperId)
  | _ => none

/-- The wish of a request, if it can be read whose it is and which keeper is meant. -/
def Exchange.wish? (x : Exchange) (endpoint : Endpoint) : Option Wish :=
  match x.caller, x.id with
  | .ok caller, .ok keeperId =>
    match endpoint with
    | .addFavourite => some (.mark caller.userId keeperId)
    | .removeFavourite => some (.unmark caller.userId keeperId)
    | _ => none
  | _, _ => none

/-- The wish of a request as it reaches the service. -/
def Arrival.wish? (config : Config) (a : Arrival) : Option Wish :=
  match Endpoint.find a.incoming with
  | .endpoint endpoint id? => (a.exchange config id?).wish? endpoint
  | _ => none

/-- The wish that reaches the database, and when. -/
def Event.wish? : Event → Option (Instant × Wish)
  | .call made now => made.wish?.map (now, ·)
  | .request config a => (a.wish? config).map (a.now, ·)

/-! ## The machine -/

instance (db : Database) (keeperId : Int) : Decidable (db.HasKeeper keeperId) :=
  inferInstanceAs (Decidable (∃ k ∈ db.tables.keepers, k.entry.id = keeperId ∧ k.entry.isLive = true))

/-- Since when each user has been marking each keeper. -/
abbrev Marks := Int × Int → Option Instant

namespace Marks

/-- The marks after a wish. A live keeper is marked since now, if not before, by a user who is there. -/
def grant (db : Database) (now : Instant) (wish : Wish) (m : Marks) : Marks :=
  match wish with
  | .mark userId keeperId =>
    if db.HasKeeper keeperId ∧ userId ∈ ids User db.tables then
      Function.update m wish.pair (some ((m wish.pair).getD now.stored))
    else m
  | .unmark _ _ => Function.update m wish.pair none

/-- The marks after something has happened to a database. -/
def next (db : Database) (event : Event) (m : Marks) : Marks :=
  match event.wish? with
  | some (now, wish) => m.grant db now wish
  | none => m

/-- A wish is about one user and one keeper. -/
theorem grant_of_ne {db : Database} {now : Instant} {wish : Wish} {m : Marks} {pair : Int × Int}
    (h : wish.pair ≠ pair) : m.grant db now wish pair = m pair := by
  unfold grant
  cases wish with
  | mark userId keeperId =>
      by_cases hgranted : db.HasKeeper keeperId ∧ userId ∈ ids User db.tables
      · simp only [if_pos hgranted]
        exact Function.update_of_ne h.symm _ m
      · simp only [if_neg hgranted]
  | unmark userId keeperId => exact Function.update_of_ne h.symm none m

end Marks

namespace Database

/-- What the wishes of a run come to. -/
def marksAfter (events : List Event) : Marks :=
  beside happen (fun db event m => m.next db event) {} (fun _ => none) events

/-- The last event of a run adds its wish to what the others came to. -/
theorem marksAfter_append_singleton (events : List Event) (event : Event) :
    marksAfter (events ++ [event]) = (marksAfter events).next (after events) event :=
  beside_append_singleton happen (fun db event (m : Marks) => m.next db event) {} _ events event

end Database

/-! ## The table of marks -/

namespace Marks

/-- The table holds the marks, each since when it has been made. -/
def IsOf (m : Marks) (t : Tables) : Prop :=
  ∀ f : Favourite, f ∈ t.favourites ↔ m (f.userId, f.keeperId) = some f.createdAt

section

variable {m : Marks} {t : Tables} {userId keeperId : Int}

/-- A mark is of one user on one keeper. -/
theorem isMark_iff {f : Favourite} :
    isMark userId keeperId f = true ↔ (userId, keeperId) = (f.userId, f.keeperId) := by
  rw [isMark, Bool.and_eq_true, decide_eq_true_eq, decide_eq_true_eq, Prod.mk.injEq, eq_comm (a := userId),
    eq_comm (a := keeperId)]

/-- A mark in the table has been made since the instant that it holds. -/
theorem IsOf.eq_some_of_isMark (h : m.IsOf t) {f : Favourite} (hf : f ∈ t.favourites)
    (hmark : isMark userId keeperId f = true) : m (userId, keeperId) = some f.createdAt := by
  rw [isMark_iff.mp hmark]
  exact (h f).mp hf

/-- Somebody marks a keeper exactly if the table says so. -/
theorem IsOf.exists_isMark_iff (h : m.IsOf t) :
    (∃ f ∈ t.favourites, isMark userId keeperId f = true) ↔ (m (userId, keeperId)).isSome = true := by
  rw [Option.isSome_iff_exists]
  constructor
  · rintro ⟨f, hf, hmark⟩
    exact ⟨f.createdAt, h.eq_some_of_isMark hf hmark⟩
  · rintro ⟨since, hsince⟩
    exact ⟨⟨userId, keeperId, since⟩, (h _).mpr hsince, isMark_iff.mpr rfl⟩

/-- What is found where a mark is looked for. -/
theorem IsOf.find? (h : m.IsOf t) (userId keeperId : Int) :
    t.favourites.find? (isMark userId keeperId) = (m (userId, keeperId)).map (Favourite.mk userId keeperId) := by
  rcases hfound : t.favourites.find? (isMark userId keeperId) with _ | f
  · rcases hsince : m (userId, keeperId) with _ | since
    · rfl
    · have hmem : (⟨userId, keeperId, since⟩ : Favourite) ∈ t.favourites := (h _).mpr hsince
      exact absurd (isMark_iff.mpr rfl) (List.find?_eq_none.mp hfound _ hmem)
  · have hmark := List.find?_some hfound
    rw [h.eq_some_of_isMark (List.mem_of_find?_eq_some hfound) hmark]
    obtain ⟨rfl, rfl⟩ := Prod.mk.inj (isMark_iff.mp hmark)
    rfl

end

/-! ## What comes of a wish -/

section

variable {m : Marks} {db : Database} {userId keeperId : Int} {since : Instant} (now : Instant)

/-- A live keeper is found. -/
theorem exec_find_of_hasKeeper (hsound : Sound db.tables) (hkeeper : db.HasKeeper keeperId) :
    ∃ keeper, (find Keeper keeperId).exec now db = (.ok keeper, db) := by
  obtain ⟨keeper, hmem, rfl, hlive⟩ := hkeeper
  exact ⟨keeper, find_of_nodup (hsound .keepers).keys hmem hlive now⟩

/-- A keeper who is not live cannot be marked. -/
theorem exec_mark_of_missing (h : ¬db.HasKeeper keeperId) :
    (addFavourite userId keeperId).exec now db = (.error (.notFound "Keeper" keeperId), db) := by
  have hdead : ∀ k ∈ (Table.rows db.tables : List Keeper), Table.id k = keeperId → HasEntry.isLive k = false :=
    fun k hk hid => Bool.eq_false_iff.mpr fun hlive => h ⟨k, hk, hid, hlive⟩
  exact Op.exec_bind_error (exec_find_of_dead hdead now)

section

variable (hsound : Sound db.tables) (h : m.IsOf db.tables)
include h

/-- A mark that was not made is not found when it is to be taken back. -/
theorem exec_unmark_of_none (hnone : m (userId, keeperId) = none) :
    (removeFavourite userId keeperId).exec now db = (.error (.notFound "Favourite" keeperId), db) := by
  refine removeFavourite_of_unmarked now db ?_
  rw [h.find?, hnone]
  rfl

/-- A mark that was made is taken back, and nothing else is changed. -/
theorem exec_unmark_of_some (hsince : m (userId, keeperId) = some since) :
    (removeFavourite userId keeperId).exec now db =
      (.ok (), { db with tables := unmarked userId keeperId db.tables }) := by
  refine removeFavourite_of_marked now db ?_
  rw [h.find?, hsince]
  rfl

include hsound

/-- Whoever marks a keeper again gets the mark that they made first. -/
theorem exec_mark_of_some (hkeeper : db.HasKeeper keeperId) (hsince : m (userId, keeperId) = some since) :
    (addFavourite userId keeperId).exec now db = (.ok ⟨userId, keeperId, since⟩, db) := by
  obtain ⟨keeper, hfind⟩ := exec_find_of_hasKeeper now hsound hkeeper
  refine addFavourite_of_marked now db hfind ?_
  rw [h.find?, hsince]
  rfl

/-- Whoever marks a keeper for the first time does so since now, if they are a user. -/
theorem exec_mark_of_none (hkeeper : db.HasKeeper keeperId) (hnone : m (userId, keeperId) = none) :
    (addFavourite userId keeperId).exec now db =
      if userId ∈ ids User db.tables then (.ok ⟨userId, keeperId, now.stored⟩,
        { db with tables := marked ⟨userId, keeperId, now.stored⟩ db.tables })
      else (.error (.validation (Reference.message ⟨"favourite_keepers", "user_id"⟩)), db) := by
  obtain ⟨keeper, hfind⟩ := exec_find_of_hasKeeper now hsound hkeeper
  have hmark : db.tables.favourites.find? (isMark userId keeperId) = none := by
    rw [h.find?, hnone]
    rfl
  rw [addFavourite_of_unmarked now db hfind hmark]
  simp only [Schema.hasId_iff]
  rfl

end

/-- A mark that was not made before is added to the table. -/
theorem IsOf.marked (h : m.IsOf db.tables) (hnone : m (userId, keeperId) = none) :
    IsOf (Function.update m (userId, keeperId) (some since)) (marked ⟨userId, keeperId, since⟩ db.tables) := by
  intro f
  change f ∈ db.tables.favourites ++ [_] ↔ _
  rw [List.mem_append, List.mem_singleton, h f]
  by_cases hpair : (f.userId, f.keeperId) = (userId, keeperId)
  · rw [hpair, hnone, Function.update_self]
    obtain ⟨huser, hkeeper⟩ := Prod.mk.inj hpair
    constructor
    · rintro (hold | rfl)
      · cases hold
      · rfl
    · intro hnew
      rw [← huser, ← hkeeper, Option.some.inj hnew]
      exact .inr rfl
  · rw [Function.update_of_ne hpair]
    refine or_iff_left ?_
    rintro rfl
    exact hpair rfl

/-- A mark that is taken back leaves the table. -/
theorem IsOf.unmarked (h : m.IsOf db.tables) (userId keeperId : Int) :
    IsOf (Function.update m (userId, keeperId) none) (unmarked userId keeperId db.tables) := by
  intro f
  change f ∈ db.tables.favourites.filter _ ↔ _
  rw [List.mem_filter, h f, Bool.not_eq_true', ← Bool.not_eq_true, isMark_iff]
  by_cases hpair : (f.userId, f.keeperId) = (userId, keeperId)
  · rw [hpair, Function.update_self]
    exact ⟨fun hmem => absurd rfl hmem.2, fun hnone => nomatch hnone⟩
  · rw [Function.update_of_ne hpair]
    exact and_iff_left fun hsame => hpair hsame.symm

/-- **The table holds the marks after a wish, if it did before.** -/
theorem IsOf.grant (hsound : Sound db.tables) (h : m.IsOf db.tables) (wish : Wish) :
    (m.grant db now wish).IsOf (wish.call.perform.exec now db).2.tables := by
  cases wish with
  | mark userId keeperId =>
      change IsOf (if _ then _ else m) ((addFavourite userId keeperId).exec now db).2.tables
      by_cases hkeeper : db.HasKeeper keeperId
      case neg =>
        rw [if_neg fun hboth => hkeeper hboth.1, exec_mark_of_missing now hkeeper]
        exact h
      rcases hsince : m (userId, keeperId) with _ | since
      · rw [exec_mark_of_none now hsound h hkeeper hsince]
        by_cases huser : userId ∈ ids User db.tables
        · rw [if_pos ⟨hkeeper, huser⟩, if_pos huser, Wish.pair, hsince]
          exact h.marked hsince
        · rw [if_neg fun hboth => huser hboth.2, if_neg huser]
          exact h
      · have hsame : Function.update m (userId, keeperId) (some ((m (userId, keeperId)).getD now.stored)) = m := by
          rw [hsince, Option.getD_some, ← hsince, Function.update_eq_self]
        rw [exec_mark_of_some now hsound h hkeeper hsince, Wish.pair, hsame, ite_self]
        exact h
  | unmark userId keeperId =>
      change IsOf (Function.update m (userId, keeperId) none)
        ((removeFavourite userId keeperId).exec now db).2.tables
      rcases hsince : m (userId, keeperId) with _ | since
      · have hsame : Function.update m (userId, keeperId) none = m := by
          rw [← hsince, Function.update_eq_self]
        rw [exec_unmark_of_none now h hsince, hsame]
        exact h
      · rw [exec_unmark_of_some now h hsince]
        exact h.unmarked userId keeperId

end

end Marks

/-! ## What happens to the table -/

/-- Only wishes write marks. -/
theorem Store.Call.not_writes_of_idle {call : Store.Call} (h : call.wish? = none) :
    TableName.favourites ∉ call.writes := by
  intro hwrites
  cases call with
  | user c | keeper c | seeker c | vet c | post c | review c | message c =>
      exact absurd (c.writes_subset _ hwrites) (by decide)
  | addFavourite | removeFavourite => cases h
  | _ => simp [Store.Call.writes] at hwrites

/-- A call is the wish that it is read as. -/
theorem Store.Call.eq_of_wish? {call : Store.Call} {wish : Wish} (h : call.wish? = some wish) :
    call = wish.call := by
  cases call with
  | addFavourite userId keeperId | removeFavourite userId keeperId =>
      cases h
      rfl
  | _ => cases h

namespace Exchange

variable {x : Exchange} {endpoint : Endpoint} {wish : Wish}

/-- What is planned for a wish. -/
theorem plan_of_wish (h : x.wish? endpoint = some wish) :
    ∃ reply : wish.call.Result → Reply, (∀ r, (reply r).status ∈ [200, 201, 204]) ∧
      x.plan endpoint = .ok (Action.replying reply (wish.call.perform : Op Database wish.call.Result)) := by
  unfold wish? at h
  rcases hcaller : x.caller with fault | caller
  · rw [hcaller] at h
    cases h
  rcases hid : x.id with fault | keeperId
  · rw [hcaller, hid] at h
    cases h
  rw [hcaller, hid] at h
  cases endpoint with
  | addFavourite =>
      cases h
      have hreply (f : Favourite) : (Reply.success 200 f.view).status ∈ [200, 201, 204] :=
        List.mem_cons_self
      refine ⟨_, hreply, ?_⟩
      change (x.caller >>= fun caller => x.id >>= _) = _
      rw [hcaller, hid]
      rfl
  | removeFavourite =>
      cases h
      have hreply (_ : Unit) : (Reply.ofStatus 204).status ∈ [200, 201, 204] := by decide
      refine ⟨_, hreply, ?_⟩
      change (x.caller >>= fun caller => x.id >>= _) = _
      rw [hcaller, hid]
      rfl
  | _ => cases h

/-- A request that writes marks has that wish. -/
theorem Writes.wish?_eq {db : Database} {call : Store.Call} (h : x.Writes db endpoint call)
    (hcall : call.wish? = some wish) : x.wish? endpoint = some wish := by
  cases h with
  | addFavourite caller keeperId asks path | removeFavourite caller keeperId asks path =>
      unfold wish?
      rw [asks, path]
      exact hcall
  | onBoard endpoint call h => cases h <;> cases hcall
  | _ => cases hcall

end Exchange

namespace Database

variable (config : Config) (db : Database) {a : Arrival} {event : Event} {now : Instant} {wish : Wish}

/-- A request with a wish is the call that the wish is. -/
theorem serve_of_wish (h : a.wish? config = some wish) :
    db.serve config a = (wish.call.perform.exec a.now db).2 := by
  unfold Arrival.wish? at h
  split at h
  case h_1 endpoint id? hfind =>
    obtain ⟨reply, hreply, hplan⟩ := Exchange.plan_of_wish h
    exact (serve_of_replying config db a hfind hplan hreply rfl).2
  case h_2 => cases h

/-- A request without a wish leaves the marks alone. -/
theorem favourites_serve_of_idle (h : a.wish? config = none) :
    (db.serve config a).tables.favourites = db.tables.favourites := by
  rcases serve_effect config db a with hframe | ⟨endpoint, id?, call, hfind, hwrites, heffect⟩
  · exact hframe .favourites (by decide)
  · have hidle : call.wish? = none := by
      rcases hcall : call.wish? with _ | wish
      · rfl
      · unfold Arrival.wish? at h
        rw [hfind] at h
        have hnone : (a.exchange config id?).wish? endpoint = none := h
        rw [hwrites.wish?_eq hcall] at hnone
        cases hnone
    exact heffect.agrees (Store.Call.not_writes_of_idle hidle)

/-- An event that is a wish does to the database what the call of the wish does. -/
theorem happen_of_wish (h : event.wish? = some (now, wish)) :
    db.happen event = (wish.call.perform.exec now db).2 := by
  cases event with
  | call call now' =>
      obtain ⟨wish', hwish, heq⟩ := Option.map_eq_some_iff.mp h
      cases heq
      rw [← Store.Call.eq_of_wish? hwish]
      rfl
  | request config a =>
      obtain ⟨wish', hwish, heq⟩ := Option.map_eq_some_iff.mp h
      cases heq
      exact serve_of_wish config db hwish

/-- An event that is no wish changes no mark. -/
theorem favourites_happen_of_idle (h : event.wish? = none) :
    (db.happen event).tables.favourites = db.tables.favourites := by
  cases event with
  | call call now' =>
      have hidle := Store.Call.not_writes_of_idle (Option.map_eq_none_iff.mp h)
      exact (effect_perform now' db call).agrees hidle
  | request config a => exact favourites_serve_of_idle config db (Option.map_eq_none_iff.mp h)

/-- **Whatever happens, the table goes on to hold the marks.** -/
theorem isOf_happen {m : Marks} (hsound : Sound db.tables) (h : m.IsOf db.tables) (event : Event) :
    (m.next db event).IsOf (db.happen event).tables := by
  unfold Marks.next
  rcases hwish : event.wish? with _ | ⟨now, wish⟩
  · intro f
    rw [favourites_happen_of_idle db hwish]
    exact h f
  · rw [happen_of_wish db hwish]
    exact h.grant now hsound wish

/-- **The table of marks holds what the wishes of the run come to.** -/
theorem isOf_after (events : List Event) : (marksAfter events).IsOf (after events).tables := by
  induction events using List.reverseRecOn with
  | nil => exact fun f => ⟨nofun, nofun⟩
  | append_singleton events event ih =>
      rw [after_append_singleton, marksAfter_append_singleton]
      exact isOf_happen (after events) (isSound_after events) ih event

/-! ## What users are told of marks -/

/-- What comes of every wish, and which keepers are listed, where users have been marking keepers since the
given instants. -/
structure Governs (m : Marks) (db : Database) : Prop where
  rows : m.IsOf db.tables
  /-- A user who is there marks the live keepers and no others. -/
  mark_iff (userId keeperId : Int) (now : Instant) (huser : userId ∈ ids User db.tables) :
    (∃ mark db', (Store.Favourites.add userId keeperId : Op Database Favourite).exec now db = (.ok mark, db')) ↔
      db.HasKeeper keeperId
  missing (userId keeperId : Int) (now : Instant) (h : ¬db.HasKeeper keeperId) :
    (Store.Favourites.add userId keeperId : Op Database Favourite).exec now db =
      (.error (.notFound "Keeper" keeperId), db)
  /-- The first mark is one more row. -/
  first (userId keeperId : Int) (now : Instant) (huser : userId ∈ ids User db.tables)
    (hkeeper : db.HasKeeper keeperId) (hnone : m (userId, keeperId) = none) :
    (Store.Favourites.add userId keeperId : Op Database Favourite).exec now db =
      (.ok ⟨userId, keeperId, now.stored⟩,
        { db with tables := marked ⟨userId, keeperId, now.stored⟩ db.tables })
  /-- Every further one is the first, and changes nothing. -/
  again (userId keeperId : Int) (now since : Instant) (hkeeper : db.HasKeeper keeperId)
    (hsince : m (userId, keeperId) = some since) :
    (Store.Favourites.add userId keeperId : Op Database Favourite).exec now db =
      (.ok ⟨userId, keeperId, since⟩, db)
  /-- A mark is taken back if it has been made, whether or not the keeper is still there. -/
  unmark (userId keeperId : Int) (now : Instant) :
    (Store.Favourites.remove userId keeperId : Op Database Unit).exec now db =
      if (m (userId, keeperId)).isSome then
        (.ok (), { db with tables := unmarked userId keeperId db.tables })
      else (.error (.notFound "Favourite" keeperId), db)
  /-- What happens is about no marks but those of one user on one keeper. -/
  apart (event : Event) (f : Favourite) (h : ∀ wish ∈ event.wish?, wish.2.pair ≠ (f.userId, f.keeperId)) :
    f ∈ (db.happen event).tables.favourites ↔ f ∈ db.tables.favourites
  /-- The live keepers whom a user has been marking are listed, the last marked first. -/
  lists (userId : Int) : ∃ rows, Lists (Store.Favourites.listFor userId) db
    (fun k : Keeper => k ∈ db.tables.keepers ∧ k.entry.isLive = true ∧ (m (userId, k.entry.id)).isSome = true)
    (fun k l => ∃ since ∈ m (userId, k.entry.id), ∃ since' ∈ m (userId, l.entry.id),
      Precedes .desc (.moment since, k.entry.id) (.moment since', l.entry.id)) rows

/-- **Marks are a set of keepers for each user, in the order in which they have been made.** -/
theorem governs_marksAfter (events : List Event) : Governs (marksAfter events) (after events) := by
  have hsound := isSound_after events
  have hof := isOf_after events
  constructor
  case rows => exact hof
  case mark_iff =>
    intro userId keeperId now huser
    constructor
    · rintro ⟨mark, db', hexec⟩
      by_contra hkeeper
      have hrefused : (addFavourite userId keeperId).exec now (after events) = _ :=
        Marks.exec_mark_of_missing now hkeeper
      cases hexec.symm.trans hrefused
    · intro hkeeper
      rcases hsince : marksAfter events (userId, keeperId) with _ | since
      · have hexec := Marks.exec_mark_of_none now hsound hof hkeeper hsince
        rw [if_pos huser] at hexec
        exact ⟨_, _, hexec⟩
      · exact ⟨_, _, Marks.exec_mark_of_some now hsound hof hkeeper hsince⟩
  case missing => exact fun userId keeperId now h => Marks.exec_mark_of_missing now h
  case first =>
    intro userId keeperId now huser hkeeper hnone
    exact (Marks.exec_mark_of_none now hsound hof hkeeper hnone).trans (if_pos huser)
  case again => exact fun userId keeperId now since hkeeper => Marks.exec_mark_of_some now hsound hof hkeeper
  case unmark =>
    intro userId keeperId now
    rcases hsince : marksAfter events (userId, keeperId) with _ | since
    · exact Marks.exec_unmark_of_none now hof hsince
    · exact Marks.exec_unmark_of_some now hof hsince
  case apart =>
    intro event f h
    have hnext := isOf_happen (after events) hsound hof event
    have hsame : (marksAfter events).next (after events) event (f.userId, f.keeperId) =
        marksAfter events (f.userId, f.keeperId) := by
      unfold Marks.next
      rcases hwish : event.wish? with _ | ⟨now, wish⟩
      · rfl
      · exact Marks.grant_of_ne (h _ hwish)
    rw [hnext f, hof f, hsame]
  case lists =>
    intro userId
    obtain ⟨rows, h⟩ := lists_favourites hsound.isUnique userId
    refine ⟨rows, lists_of_page h.page (fun k => ?_) h.nodup (h.ordered.imp ?_)⟩
    · rw [h.mem_iff, hof.exists_isMark_iff]
    · rintro k l ⟨f, hf, g, hg, hfmark, hgmark, hprecedes⟩
      exact ⟨_, hof.eq_some_of_isMark hf hfmark, _, hof.eq_some_of_isMark hg hgmark, hprecedes⟩

/-- A keeper is marked twice, and then deleted. -/
def markedTwice : List Event :=
  kitten ++ [.call (.keeper (.create { userId := 1 })) ⟨2, 0⟩, .call (.addFavourite 2 1) ⟨3, 0⟩,
    .call (.addFavourite 2 1) ⟨4, 0⟩, .call (.keeper (.delete 1)) ⟨5, 0⟩]

/-- The mark is still the first one. -/
example : marksAfter markedTwice (2, 1) = some ⟨3, 0⟩ := by rfl

end Database

end Fostering
