import Mathlib.Data.List.Induction
import Fostering.Database.Store
import Fostering.Http.App
import Fostering.Proofs.Calls

/-!
# What happens to a database

Requests are served one after another, each at its own instant and with its own fresh bytes
(`Database.serveAll`). More may happen to a database than requests: whoever holds it may make any call
of the store, with whatever rows (`Event`). Either way a run is a list, and what holds at first and is
kept by every step holds after it. What a run should come to may be told by a machine of its own that goes
beside it (`Database.beside`).
-/

namespace Fostering

/-- A request as it reaches the service. -/
structure Arrival where
  incoming : Incoming
  now : Instant
  /-- Fresh bytes. -/
  random : Bytes

/-- Something that happens to a database. -/
inductive Event where
  | call (call : Store.Call) (now : Instant)
  | request (config : Config) (arrival : Arrival)

namespace Database

/-- The database after a request. -/
def serve (config : Config) (db : Database) (a : Arrival) : Database :=
  (App.serve config a.random a.incoming a.now db).2

/-- The database after requests that were served one after another. -/
def serveAll (config : Config) (db : Database) (run : List Arrival) : Database :=
  run.foldl (serve config) db

/-- The database after something happened to it. -/
def happen (db : Database) : Event → Database
  | .call call now => (call.perform.exec now db).2
  | .request config arrival => db.serve config arrival

/-- What has become of the empty database. -/
def after (events : List Event) : Database := events.foldl happen {}

variable {config : Config} {db : Database}

/-- No request, no change. -/
@[simp] theorem serveAll_nil : serveAll config db [] = db := rfl

/-- A run serves its first request, and then the others. -/
@[simp] theorem serveAll_cons (a : Arrival) (run : List Arrival) :
    serveAll config db (a :: run) = serveAll config (db.serve config a) run := rfl

/-- A run that goes on serves the further requests from where it stood. -/
theorem serveAll_append (run run' : List Arrival) :
    serveAll config db (run ++ run') = serveAll config (serveAll config db run) run' :=
  List.foldl_append

/-- A run of requests is something that happens to the empty database. -/
theorem serveAll_eq_after (config : Config) (run : List Arrival) :
    serveAll config {} run = after (run.map (Event.request config)) := by
  unfold serveAll after
  rw [List.foldl_map]
  rfl

/-- The last event happens to the database that all others left. -/
theorem after_append_singleton (events : List Event) (event : Event) :
    after (events ++ [event]) = (after events).happen event :=
  List.foldl_append

/-- What every request of a run keeps, the run keeps. -/
theorem serveAll_induction {P : Database → Prop} {run : List Arrival}
    (hstep : ∀ a ∈ run, ∀ db, P db → P (db.serve config a)) (h : P db) :
    P (serveAll config db run) := by
  induction run generalizing db with
  | nil => exact h
  | cons a run ih =>
      rw [serveAll_cons]
      refine ih (fun a' ha' => hstep a' (List.mem_cons_of_mem a ha')) ?_
      exact hstep a List.mem_cons_self db h

/-- What holds of the empty database and is kept by all that happens always holds. -/
theorem after_induction {P : Database → Prop} (h : P {})
    (hstep : ∀ db event, P db → P (happen db event)) (events : List Event) : P (after events) := by
  induction events using List.reverseRecOn with
  | nil => exact h
  | append_singleton events event ih =>
      rw [after_append_singleton]
      exact hstep _ event ih

/-! ## Beside a run -/

section

variable {α β : Type} (next : Database → β → Database) (step : Database → β → α → α)

/-- What a machine comes to that goes beside a run, and sees the database before each step. -/
def beside (db : Database) (a : α) : List β → α
  | [] => a
  | b :: run => beside (next db b) (step db b a) run

/-- What goes beside a run keeps up with its last event. -/
theorem beside_append_singleton (db : Database) (a : α) (run : List β) (b : β) :
    beside next step db a (run ++ [b]) = step (run.foldl next db) b (beside next step db a run) := by
  induction run generalizing db a with
  | nil => rfl
  | cons first run ih => exact ih (next db first) (step db first a)

end

end Database

/-! ## Small runs -/

/-- Two users, and a post of the first one: something for a run to start from. -/
def kitten : List Event :=
  [.call (.user (.create { username := "anna", email := "anna@example.org" })) ⟨0, 0⟩,
    .call (.user (.create { username := "boris", email := "boris@example.org" })) ⟨0, 0⟩,
    .call (.post (.create { authorId := 1, title := "Kitten", body := "Two months old",
                            status := "published" })) ⟨1, 0⟩]

/-- A service that blocks posts at this number of reports. -/
def Config.blockingAt (reportThreshold : Int) : Config where
  host := "0.0.0.0"
  port := 3000
  corsOrigins := []
  timeoutSecs := 30
  token := { secret := "secret" }
  defaultSort := .standard
  reportThreshold := reportThreshold

/-- A request of somebody who does not say who they are. -/
def Arrival.anonymous (method path : String) (now : Instant) : Arrival :=
  ⟨{ method, path }, now, []⟩

end Fostering
