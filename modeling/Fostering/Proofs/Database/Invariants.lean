import Fostering.Proofs.Endpoints
import Fostering.Proofs.Runs

/-!
# What every call keeps

A request reaches the database through calls of the store only. So a property of databases that every
call keeps is kept by every request, too, and by whatever happens to a database.

* `serve_of_calls`, `serveAll_of_calls`: requests keep what every call keeps.
* `after_of_calls`: what holds of the empty database and is kept by every call always holds.
* `after_append_of_calls`: what holds after a run and is kept by every call holds from then on.
-/

namespace Fostering.Database

variable {P : Database → Prop} {config : Config} {db : Database}

/-- A property is kept by every call of the store, whether the call is refused or not. -/
def KeptByCalls (P : Database → Prop) : Prop :=
  ∀ (call : Store.Call) (now : Instant) (db : Database), P db → P (call.perform.exec now db).2

/-- What every call keeps, an operation that is made of calls keeps. -/
theorem KeptByCalls.of_madeOf (hcalls : KeptByCalls P) {α : Type} {Q : Store.Call → Prop}
    {op : Op Database α} (hop : op.MadeOf Q) {now : Instant} (h : P db) : P (op.exec now db).2 := by
  let R (db db' : Database) : Prop := P db → P db'
  have hpreorder : IsPreorder Database R :=
    { refl := fun _ h => h
      trans := fun _ _ _ h h' hdb => h' (h hdb) }
  have hkeeps : op.KeepsTo R := hop.keepsTo fun call _ now db => hcalls call now db
  exact hkeeps now db h

/-- **A request keeps what every call keeps.** -/
theorem serve_of_calls (hcalls : KeptByCalls P) (a : Arrival) (h : P db) : P (db.serve config a) := by
  unfold serve
  rcases App.serve_cases config a.random a.incoming a.now db with
    heq | ⟨endpoint, id?, action, -, hplan, heq⟩
  · rw [heq]
    exact h
  · have hwrites := Exchange.plan_writesOnly _ endpoint action hplan
    rw [heq]
    exact hcalls.of_madeOf hwrites h

/-- A run of requests keeps what every call keeps. -/
theorem serveAll_of_calls (hcalls : KeptByCalls P) (h : P db) (run : List Arrival) :
    P (serveAll config db run) :=
  serveAll_induction (fun a _ _ hdb => serve_of_calls hcalls a hdb) h

/-- What happens to a database keeps what every call keeps. -/
theorem happen_of_calls (hcalls : KeptByCalls P) (event : Event) (h : P db) : P (db.happen event) := by
  cases event with
  | call call now => exact hcalls call now db h
  | request config a => exact serve_of_calls hcalls a h

/-- However much happens to a database, it keeps what every call keeps. -/
theorem foldl_of_calls (hcalls : KeptByCalls P) (h : P db) (events : List Event) : P (events.foldl happen db) := by
  induction events generalizing db with
  | nil => exact h
  | cons event events ih => exact ih (happen_of_calls hcalls event h)

/-- **What holds of the empty database and is kept by every call always holds.** -/
theorem after_of_calls (hcalls : KeptByCalls P) (h : P {}) (events : List Event) :
    P (after events) :=
  foldl_of_calls hcalls h events

/-- What holds after a run and is kept by every call holds however the run goes on. -/
theorem after_append_of_calls (hcalls : KeptByCalls P) {events : List Event} (h : P (after events))
    (events' : List Event) : P (after (events ++ events')) := by
  unfold after at *
  rw [List.foldl_append]
  exact foldl_of_calls hcalls h events'

end Fostering.Database
