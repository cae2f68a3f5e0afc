import Fostering.Proofs.Database.Integrity
import Fostering.Proofs.Database.Timestamps
import Fostering.Proofs.Requests.Failures

/-!
# Rows and the clock

Requests that reach the service by a clock that never goes back leave rows whose dates are in order: a row
is made, changed and deleted at instants that come one after another, and what a request changes later is
dated later. The reason is that whatever a request adds is dated with the instant of the request
(`Exchange.Writes.drafts`), and so is whatever it changes.

* `Database.ageTo_serve`: what a request makes of the rows of each table.
* `Database.Dated`: the invariant, that all dates are in order and not after the requests to come.
* `Database.dates_follow_the_clock`: the dates of rows, over every call and over every run.
-/

namespace Fostering

/-- What comes later is stored as something that comes no sooner. -/
theorem Instant.stored_not_before {a b : Instant} (h : a.toNanos ≤ b.toNanos) :
    b.stored.before a.stored = false := by
  have hmicros : Int.tdiv (a.toNanos - storeEpoch * 1000000000) 1000 ≤
      Int.tdiv (b.toNanos - storeEpoch * 1000000000) 1000 :=
    Int.tdiv_le_tdiv (by decide) (by omega)
  simp only [before, Bool.or_eq_false_iff, Bool.and_eq_false_iff, decide_eq_false_iff_not,
    beq_eq_false_iff_ne]
  unfold stored ofNanos
  dsimp only
  omega

/-- The clock never goes back from a request to a later one. -/
def IsTimely (run : List Arrival) : Prop := run.Pairwise fun a b => a.now.toNanos ≤ b.now.toNanos

/-! ## Requests -/

/-- A row without dates gets both of them. -/
theorem Entry.stamped_default (now : Instant) :
    ({} : Entry).stamped now = { createdAt := now, updatedAt := now } := by
  unfold stamped
  rw [Instant.fillIfUnset_unset]

namespace Exchange

variable {x : Exchange} {db : Database} {endpoint : Endpoint} {call : Store.Call}

/-- **Whatever a request adds is dated with the instant of the request.** -/
theorem Writes.drafts (h : x.Writes db endpoint call) :
    ∀ d ∈ call.drafts, d.createdAt = x.now ∧ d.updatedAt = x.now := by
  have hstamped : ∀ d ∈ [({} : Entry).stamped x.now], d.createdAt = x.now ∧ d.updatedAt = x.now := by
    rw [Entry.stamped_default]
    exact List.forall_mem_singleton.mpr ⟨rfl, rfl⟩
  cases h with
  | register | createReview | createChat | sendMessage => exact hstamped
  | createKeeper row h | createSeeker row h | createVet row h =>
      cases h
      exact hstamped
  | onBoard endpoint call h =>
      cases h with
      | create => exact hstamped
      | _ => exact List.forall_mem_nil _
  | _ => exact List.forall_mem_nil _

end Exchange

namespace Database

variable (config : Config) {db : Database} {t t' : Tables} {now : Instant}

/-- What a request makes of the rows of each table. -/
theorem ageTo_serve (hkeys : ∀ name : TableName, (name.ids db.tables).Nodup) (a : Arrival) :
    ∃ drafts, (∀ d ∈ drafts, d.createdAt = a.now ∧ d.updatedAt = a.now) ∧
      ∀ name : TableName, name.AgeTo a.now drafts db.tables (db.serve config a).tables := by
  rcases serve_effect config db a with hsessions | ⟨endpoint, id?, call, -, hcall, heffect⟩
  · refine ⟨[], nofun, fun name => ?_⟩
    by_cases hname : name = .sessions
    · subst hname
      trivial
    · exact TableName.ageTo_of_agrees (hkeys name) (hsessions name (mt List.mem_singleton.mp hname))
  · exact ⟨call.drafts, hcall.drafts, ageTo_of_effect hkeys heffect⟩

/-! ## Runs -/

/-- The dates of each row are in order, and no row was changed after a request that is to come. -/
structure Dated (run : List Arrival) (t : Tables) : Prop where
  ordered : ∀ name : TableName, ∀ e ∈ name.entries t, e.IsOrdered
  past : ∀ name : TableName, ∀ e ∈ name.entries t, ∀ a ∈ run, a.now.stored.before e.updatedAt = false

/-- There is nothing in an empty database to be dated. -/
theorem dated_empty (run : List Arrival) : Dated run ({} : Database).tables where
  ordered name _ he := by cases name <;> cases he
  past name _ he := by cases name <;> cases he

/-- Each row is still there, and it is not dated back. -/
def GoesOn (t t' : Tables) : Prop :=
  ∀ name : TableName, ∀ e ∈ name.entries t, ∃ e' ∈ name.entries t',
    e'.id = e.id ∧ e'.updatedAt.before e.updatedAt = false

theorem goesOn_refl (t : Tables) : GoesOn t t := fun _ e he => ⟨e, he, rfl, Instant.before_irrefl _⟩

theorem GoesOn.trans {t'' : Tables} (h : GoesOn t t') (h' : GoesOn t' t'') : GoesOn t t'' := by
  intro name e he
  obtain ⟨e', he', hid, hlater⟩ := h name e he
  obtain ⟨e'', he'', hid', hlater'⟩ := h' name e' he'
  exact ⟨e'', he'', hid'.trans hid, Instant.not_before_trans hlater hlater'⟩

/-- A request keeps the dates in order. -/
theorem Dated.serve {a : Arrival} {run : List Arrival} (htimely : IsTimely (a :: run))
    (hkeys : ∀ name : TableName, (name.ids db.tables).Nodup) (h : Dated (a :: run) db.tables) :
    Dated run (db.serve config a).tables ∧ GoesOn db.tables (db.serve config a).tables := by
  obtain ⟨drafts, hdrafts, hages⟩ := ageTo_serve config hkeys a
  have hpast (name : TableName) (e : Entry) (he : e ∈ name.entries db.tables) :
      a.now.stored.before e.updatedAt = false := h.past name e he a List.mem_cons_self
  have hentry (name : TableName) (e' : Entry) (he' : e' ∈ name.entries (db.serve config a).tables) :
      e'.IsOrdered ∧ a.now.stored.before e'.updatedAt = false := by
    rcases (hages name).entries_new he' with ⟨e, he, hage⟩ | ⟨d, hd, hborn⟩
    · have hpast' := hpast name e he
      exact ⟨hage.isOrdered hpast' (h.ordered name e he), (hage.not_before hpast').2⟩
    · obtain ⟨hcreated, hupdated⟩ := hdrafts d hd
      exact hborn.isOrdered hcreated hupdated
  refine ⟨⟨fun name e' he' => (hentry name e' he').1, fun name e' he' b hb => ?_⟩, fun name e he => ?_⟩
  · have hlater : b.now.stored.before a.now.stored = false :=
      Instant.stored_not_before ((List.pairwise_cons.mp htimely).1 b hb)
    exact Instant.not_before_trans (hentry name e' he').2 hlater
  · obtain ⟨e', he', hage⟩ := (hages name).entries_old he
    exact ⟨e', he', hage.id_eq, (hage.not_before (hpast name e he)).1⟩

/-- Calls keep tables sound. -/
theorem keptByCalls_sound : KeptByCalls fun db => Sound db.tables :=
  fun call now db h => sound_of_effect h (effect_perform now db call)

/-- Tables are sound after every run of requests. -/
theorem sound_serveAll (run : List Arrival) : Sound (serveAll config {} run).tables :=
  serveAll_of_calls keptByCalls_sound sound_empty run

/-- A run keeps the dates in order. -/
theorem Dated.serveAll {run run' : List Arrival} (htimely : IsTimely (run ++ run'))
    (hsound : Sound db.tables) (h : Dated (run ++ run') db.tables) :
    Dated run' (serveAll config db run).tables ∧ GoesOn db.tables (serveAll config db run).tables := by
  induction run generalizing db with
  | nil => exact ⟨h, goesOn_refl _⟩
  | cons a run ih =>
      obtain ⟨hdated, hgoes⟩ := Dated.serve config htimely hsound.nodup_ids h
      have hsound' : Sound (db.serve config a).tables := serve_of_calls keptByCalls_sound a hsound
      obtain ⟨hdated', hgoes'⟩ := ih (List.pairwise_cons.mp htimely).2 hsound' hdated
      exact ⟨hdated', hgoes.trans hgoes'⟩

/-- Rows are told apart by their shared columns as by their ids. -/
theorem eq_of_entry_id {name : TableName} (hkeys : (name.ids t).Nodup) {e e' : Entry}
    (he : e ∈ name.entries t) (he' : e' ∈ name.entries t) (hid : e'.id = e.id) : e' = e := by
  have hentries : ((name.entries t).map Entry.id).Nodup := by
    cases name with
    | reports | members | favourites | sessions => exact .nil
    | _ =>
        unfold TableName.entries
        rw [List.map_map]
        exact hkeys
  exact List.inj_on_of_nodup_map hentries he' he hid

/-- **Rows are dated by the clock.** Whatever call is made of the store in a database that keeps to its
primary keys, each row that was there stays as it is or is dated with the instant of the call, and keeps
its id, its owner and the date of its making. So after every run of requests by a clock that never goes
back the dates of each row are in order, and however the run goes on, the row is dated no sooner. -/
theorem dates_follow_the_clock :
    (∀ (call : Store.Call) (now : Instant) (db : Database),
      (∀ name : TableName, (name.ids db.tables).Nodup) →
      ∀ name : TableName, name.AgeTo now call.drafts db.tables (call.perform.exec now db).2.tables) ∧
    ∀ (config : Config) (run run' : List Arrival), IsTimely (run ++ run') →
      ∀ name : TableName, ∀ e ∈ name.entries (serveAll config {} run).tables, e.IsOrdered ∧
        ∃ e' ∈ name.entries (serveAll config {} (run ++ run')).tables, e'.id = e.id ∧
          e'.updatedAt.before e.updatedAt = false ∧
          ∀ s ∈ name.entries (serveAll config {} (run ++ run')).tables, s.id = e.id → s = e' := by
  refine ⟨fun call now db hkeys => ageTo_of_effect hkeys (effect_perform now db call),
    fun config run run' htimely name e he => ?_⟩
  obtain ⟨hdated, -⟩ := Dated.serveAll config htimely sound_empty (dated_empty (run ++ run'))
  have hsound : Sound (Database.serveAll config {} run).tables := sound_serveAll config run
  have hlater : IsTimely (run' ++ []) := by
    rw [List.append_nil]
    exact (List.pairwise_append.mp htimely).2.1
  have hdated' : Dated (run' ++ []) (Database.serveAll config {} run).tables := by
    rwa [List.append_nil]
  obtain ⟨-, hgoes⟩ := Dated.serveAll config hlater hsound hdated'
  rw [← serveAll_append] at hgoes
  have hsound' : Sound (Database.serveAll config {} (run ++ run')).tables :=
    sound_serveAll config (run ++ run')
  obtain ⟨e', he', hid, hback⟩ := hgoes name e he
  refine ⟨hdated.ordered name e he, e', he', hid, hback, fun s hs hsame => ?_⟩
  exact eq_of_entry_id (hsound'.nodup_ids name) he' hs (hsame.trans hid.symm)

/-- A post is dated when it is blocked, and Anna's account as it was made is still there when she has
offered to keep animals. -/
theorem dates_follow_the_clock_anna :
    (∀ name : TableName, (name.ids (after kitten).tables).Nodup) ∧
    (∀ name : TableName, name.AgeTo ⟨2, 0⟩ [] (after kitten).tables
      ((Store.Call.blockPost 1).perform.exec ⟨2, 0⟩ (after kitten)).2.tables) ∧
    IsTimely ([annaRegisters annasToken] ++ [annaOffers annasToken]) ∧
    annasEntry ∈
      TableName.users.entries (serveAll (.blockingAt 3) {} [annaRegisters annasToken]).tables ∧
    annasEntry.IsOrdered ∧
    ∃ e' ∈ TableName.users.entries
        (serveAll (.blockingAt 3) {} ([annaRegisters annasToken] ++ [annaOffers annasToken])).tables,
      e'.id = 1 ∧ e'.updatedAt.before ⟨60, 0⟩ = false := by
  have hkeys : ∀ name : TableName, (name.ids (after kitten).tables).Nodup :=
    (isSound_after kitten).nodup_ids
  have htimely : IsTimely ([annaRegisters annasToken] ++ [annaOffers annasToken]) :=
    List.pairwise_pair.mpr (Int.le_refl _)
  have hmem : annasEntry ∈
      TableName.users.entries (serveAll (.blockingAt 3) {} [annaRegisters annasToken]).tables := by
    obtain ⟨hash, hregisters⟩ := serve_annaRegisters (.blockingAt 3) annasToken
    rw [serveAll_cons, hregisters]
    exact List.mem_cons_self
  obtain ⟨hordered, e', he', hid, hback, -⟩ :=
    dates_follow_the_clock.2 (.blockingAt 3) _ _ htimely .users annasEntry hmem
  exact ⟨hkeys, dates_follow_the_clock.1 (.blockPost 1) ⟨2, 0⟩ (after kitten) hkeys, htimely, hmem, hordered,
    e', he', hid, hback⟩

end Database

end Fostering
