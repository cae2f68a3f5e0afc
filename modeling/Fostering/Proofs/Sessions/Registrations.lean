import Fostering.Proofs.Requests.Clock

/-!
# Who registered with which password

The password of a user is the one of the request by which the user registered (`RegisteredWith`). There is
one such request for each user that there is after a run, and the digest that is stored is the one that was
made then: nothing that happens later touches it, and no id is given away twice.

* `Database.hash_serve`: where the digests of a database come from, one request back.
* `exists_registration`: the request by which a user of a run registered.
* `registration_unique`: there is no other.
-/

namespace Fostering

open Database

/-- A request asks to register. -/
def Arrival.AsksToRegister (a : Arrival) (config : Config) (request : RegisterUser) : Prop :=
  ∃ id?, Endpoint.find a.incoming = .endpoint .register id? ∧
    (a.exchange config id?).body RegisterUser = .ok request

/-- A request registers a user under an id. -/
structure Arrival.Registers (a : Arrival) (config : Config) (db : Database) (id : Int)
    (request : RegisterUser) : Prop where
  asks : a.AsksToRegister config request
  new : id ∉ ids User db.tables
  made : id ∈ ids User (db.serve config a).tables

/-- A user of a run registered with a password. -/
def RegisteredWith (config : Config) (run : List Arrival) (id : Int) (password : String) : Prop :=
  ∃ before a later request, run = before ++ a :: later ∧
    a.Registers config (serveAll config {} before) id request ∧ request.password = password

variable {config : Config}

/-- What a request asks for is in the request. -/
theorem Arrival.AsksToRegister.unique {a : Arrival} {request request' : RegisterUser}
    (h : a.AsksToRegister config request) (h' : a.AsksToRegister config request') : request = request' := by
  obtain ⟨id?, hfind, hbody⟩ := h
  obtain ⟨id?', hfind', hbody'⟩ := h'
  rw [hfind] at hfind'
  cases hfind'
  exact Except.ok.inj (hbody.symm.trans hbody')

namespace Database

variable {now : Instant} {t t' : Tables} {db : Database}

/-! ## Steps -/

/-- Digests stay what they are, but for the user that a call adds. -/
theorem hash_of_effect {call : Store.Call} (h : Effect now t call t') {u' : User} (hu' : u' ∈ t'.users) :
    (∃ u ∈ t.users, u'.entry.id = u.entry.id ∧ u'.passwordHash = u.passwordHash) ∨
      ∃ given, call = .user (.create given) ∧ u'.passwordHash = given.passwordHash ∧
        u'.entry.id ∉ ids User t := by
  have hframe (hname : TableName.users ∉ call.writes) : t'.users = t.users := h.agrees hname
  have hput {old new : User} (hput : u' ∈ (putRow new t).users) (hmem : old ∈ t.users)
      (hid : new.entry.id = old.entry.id) (hhash : new.passwordHash = old.passwordHash) :
      ∃ u ∈ t.users, u'.entry.id = u.entry.id ∧ u'.passwordHash = u.passwordHash := by
    change u' ∈ t.users.map (fun u => if u.entry.id = new.entry.id then new else u) at hput
    obtain ⟨u, hu, rfl⟩ := List.mem_map.mp hput
    split_ifs
    · exact ⟨old, hmem, hid, hhash⟩
    · exact ⟨u, hu, rfl, rfl⟩
  cases h with
  | user call _ h =>
      cases h with
      | stay => exact .inl ⟨u', hu', rfl, rfl⟩
      | create given id insertable =>
          rcases List.mem_append.mp hu' with hu' | hu'
          · exact .inl ⟨u', hu', rfl, rfl⟩
          · obtain rfl := List.mem_singleton.mp hu'
            refine .inr ⟨given, rfl, rfl, fun hused => ?_⟩
            obtain ⟨u, hu, hid⟩ := List.mem_map.mp hused
            exact insertable.unused u hu hid
      | update given old mem same live admissible => exact .inl (hput hu' mem rfl rfl)
      | delete id old mem same live => exact .inl (hput hu' mem rfl rfl)
  | keeper call | seeker call | vet call | post call | message call =>
      have hsame := hframe fun hname => absurd (call.writes_subset _ hname) (by decide)
      exact .inl ⟨u', hsame ▸ hu', rfl, rfl⟩
  | _ => exact .inl ⟨u', hu', rfl, rfl⟩

/-- Where the digests of a database come from, one request back. -/
theorem hash_serve (config : Config) (db : Database) (a : Arrival) {u' : User}
    (hu' : u' ∈ (db.serve config a).tables.users) :
    (∃ u ∈ db.tables.users, u'.entry.id = u.entry.id ∧ u'.passwordHash = u.passwordHash) ∨
      ∃ request, a.Registers config db u'.entry.id request ∧
        u'.passwordHash = Password.hash (a.random.take Password.saltLength) request.password := by
  have hmade : u'.entry.id ∈ ids User (db.serve config a).tables := List.mem_map_of_mem hu'
  rcases serve_effect config db a with hsessions | ⟨endpoint, id?, call, hfind, hcall, heffect⟩
  · have hsame : (db.serve config a).tables.users = db.tables.users := hsessions .users (by decide)
    exact .inl ⟨u', hsame ▸ hu', rfl, rfl⟩
  rcases hash_of_effect heffect hu' with hold | ⟨given, rfl, hhash, hnew⟩
  · exact .inl hold
  · cases hcall with
    | register request body => exact .inr ⟨request, ⟨⟨id?, hfind, body⟩, hnew, hmade⟩, hhash⟩
    | onBoard endpoint call h => cases h

/-! ## Runs -/

/-- Users stay. -/
theorem ids_serveAll_subset (config : Config) (hsound : Sound db.tables) (run : List Arrival) :
    ids User db.tables ⊆ ids User (serveAll config db run).tables := by
  induction run generalizing db with
  | nil => exact List.Subset.refl _
  | cons a run ih =>
      have hsound' : Sound (db.serve config a).tables := serve_of_calls keptByCalls_sound a hsound
      refine List.Subset.trans (fun id hid => ?_) (ih hsound')
      obtain ⟨u, hu, rfl⟩ := List.mem_map.mp hid
      obtain ⟨drafts, -, hages⟩ := ageTo_serve config hsound.nodup_ids a
      obtain ⟨u', hu', hage, -⟩ := (hages .users).old u hu
      exact List.mem_map.mpr ⟨u', hu', hage.entry.id_eq⟩

end Database

/-- **The digest of a user is the one that was made when the user registered.** -/
theorem exists_registration (config : Config) (run : List Arrival) :
    ∀ u ∈ (serveAll config {} run).tables.users, ∃ before a later request, run = before ++ a :: later ∧
      a.Registers config (serveAll config {} before) u.entry.id request ∧
      u.passwordHash = Password.hash (a.random.take Password.saltLength) request.password := by
  induction run using List.reverseRecOn with
  | nil =>
      intro u hu
      rw [serveAll_nil] at hu
      cases hu
  | append_singleton run b ih =>
      intro u' hu'
      rw [serveAll_append] at hu'
      rcases hash_serve config _ b hu' with ⟨u, hu, hid, hhash⟩ | ⟨request, hregisters, hhash⟩
      · obtain ⟨before, a, later, request, rfl, hregisters, hmade⟩ := ih u hu
        refine ⟨before, a, later ++ [b], request, by simp, ?_, hhash.trans hmade⟩
        rw [hid]
        exact hregisters
      · exact ⟨run, b, [], request, rfl, hregisters, hhash⟩

/-- A user registers before or after another one, or they are the same. -/
theorem not_registers_again {before between : List Arrival} {a a' : Arrival} {id : Int}
    {request request' : RegisterUser} (h : a.Registers config (serveAll config {} before) id request)
    (h' : a'.Registers config (serveAll config {} (before ++ a :: between)) id request') : False := by
  have hsound : Sound ((serveAll config {} before).serve config a).tables :=
    serve_of_calls keptByCalls_sound a (sound_serveAll config before)
  refine h'.new ?_
  rw [serveAll_append]
  exact ids_serveAll_subset config hsound between h.made

/-- **A user registers once.** -/
theorem registration_unique {run before before' later later' : List Arrival} {a a' : Arrival} {id : Int}
    {request request' : RegisterUser} (hrun : run = before ++ a :: later)
    (h : a.Registers config (serveAll config {} before) id request)
    (hrun' : run = before' ++ a' :: later')
    (h' : a'.Registers config (serveAll config {} before') id request') : a = a' ∧ request = request' := by
  rcases List.append_eq_append_iff.mp (hrun.symm.trans hrun') with
    ⟨between, rfl, hlater⟩ | ⟨between, rfl, hlater⟩
  · cases between with
    | nil =>
        obtain ⟨rfl, -⟩ := List.cons.inj hlater
        exact ⟨rfl, h.asks.unique h'.asks⟩
    | cons b between =>
        obtain ⟨rfl, -⟩ := List.cons.inj hlater
        exact (not_registers_again h h').elim
  · cases between with
    | nil =>
        obtain ⟨rfl, -⟩ := List.cons.inj hlater
        rw [List.append_nil] at h
        exact ⟨rfl, h.asks.unique h'.asks⟩
    | cons b between =>
        obtain ⟨rfl, -⟩ := List.cons.inj hlater
        exact (not_registers_again h' h).elim

end Fostering
