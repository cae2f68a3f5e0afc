import Fostering.Proofs.Database.Refusals
import Fostering.Proofs.Requests.Stored

/-!
# What the database has no reason to refuse

A request that is plain, made to a database with sound rows, leads to a call that fits: what the
service writes for it has a stored form and passes the checks. There is one exception. A change may set
the price in the profile of a keeper or a vet to any number (`Exchange.Underprices`), and the check on
prices is the first to look at it.

* `Instant.isStorable_stored`, `Instant.isStorable_of_dated`: which instants have stored forms.
* `Exchange.Writes.fits`: the calls for plain requests fit, unless they set a price below zero.
-/

namespace Fostering

/-! ## Instants -/

namespace Instant

/-- Nanoseconds count the seconds, too. -/
theorem toNanos_ofNanos (n : Int) : (ofNanos n).toNanos = n := by
  unfold toNanos ofNanos
  dsimp only
  omega

/-- Whether an instant can be stored is not changed by storing it. -/
theorem isStorable_stored (t : Instant) : t.stored.isStorable = t.isStorable := by
  unfold isStorable stored
  dsimp only
  rw [toNanos_ofNanos, Int.add_sub_cancel, Int.mul_tdiv_cancel _ (by decide)]

/-- The clocks of the service show instants that can be stored. -/
theorem isStorable_of_dated {t : Instant} (h : 0 ≤ t.seconds) : t.isStorable = true := by
  have hnanos : 0 ≤ t.toNanos := by
    unfold toNanos
    omega
  have hmicros : Int.tdiv (0 - storeEpoch * 1000000000) 1000 ≤
      Int.tdiv (t.toNanos - storeEpoch * 1000000000) 1000 :=
    Int.tdiv_le_tdiv (by decide) (Int.sub_le_sub_right hnanos _)
  exact decide_eq_true (Int.le_trans (by decide) hmicros)

end Instant

/-! ## New rows and changed rows -/

section

variable {ρ : Type} {now : Instant}

/-- A row can be stored if its texts and its instants can. -/
theorem isStorable_of [Schema ρ] {row : ρ} (htexts : HasStorableTexts row)
    (hinstants : ∀ t ∈ Schema.instants row, t.isStorable = true) : Schema.isStorable row = true :=
  Bool.and_eq_true_iff.mpr ⟨List.all_eq_true.mpr htexts, List.all_eq_true.mpr hinstants⟩

/-- The instants of a new row are those of its making. -/
theorem isStorable_new (hnow : now.isStorable = true) {e : Entry} (hnew : e = {}) :
    ∀ t ∈ Schema.entryInstants
        { createdAt := (e.stamped now).createdAt.stored, updatedAt := (e.stamped now).updatedAt.stored },
      t.isStorable = true := by
  have hstamped : (Instant.unset.fillIfUnset now).stored.isStorable = true := by
    rw [Instant.fillIfUnset_unset, Instant.isStorable_stored]
    exact hnow
  rw [hnew]
  exact List.forall_mem_cons.mpr ⟨hstamped, List.forall_mem_singleton.mpr hstamped⟩

end

/-! ## Prices -/

/-- A change sets a price below zero. -/
def Change.Underprices (change : Change (Option Int)) : Prop := ∃ n, change = .set (some n) ∧ n < 0

/-- A price stays not below zero unless a change asks for one that is. -/
theorem Change.notNegative_apply {change : Change (Option Int)} {stored : Option Int}
    (h : NotNegative stored) (hchange : ¬change.Underprices) : NotNegative (change.apply stored) := by
  refine Change.of_apply (Q := NotNegative) h fun price? hset n hn => ?_
  refine Int.not_lt.mp fun hbelow => hchange ⟨n, ?_, hbelow⟩
  cases change with
  | keep => cases hset
  | set value =>
      cases hset
      rw [Option.mem_def.mp hn]

/-- A change that asks for a price below zero gets it. -/
theorem Change.not_notNegative_apply {change : Change (Option Int)} (h : change.Underprices)
    (stored : Option Int) : ¬NotNegative (change.apply stored) := by
  obtain ⟨n, rfl, hbelow⟩ := h
  intro hprice
  exact absurd (hprice n rfl) (Int.not_le.mpr hbelow)

/-! ## Calls -/

namespace Exchange

/-- A request asks to set the price in a live profile of the caller below zero. -/
inductive Underprices (x : Exchange) (db : Database) : Endpoint → Prop where
  | keeper (caller : Caller) (request : UpdateKeeper) (old : Keeper) (asks : x.caller = .ok caller)
      (path : x.id = .ok old.entry.id) (body : x.body UpdateKeeper = .ok request)
      (mem : old ∈ db.tables.keepers) (live : old.entry.isLive = true)
      (own : old.userId = caller.userId) (price : request.price.Underprices) :
      Underprices x db .updateKeeper
  | vet (caller : Caller) (request : UpdateVet) (old : Vet) (asks : x.caller = .ok caller)
      (path : x.id = .ok old.entry.id) (body : x.body UpdateVet = .ok request)
      (mem : old ∈ db.tables.vets) (live : old.entry.isLive = true)
      (own : old.userId = caller.userId) (price : request.price.Underprices) :
      Underprices x db .updateVet

variable {x : Exchange} {db : Database} {endpoint : Endpoint} {call : Store.Call}

/-- **What the service writes for a plain request fits, unless the request sets a price below zero.** -/
theorem Writes.fits (h : x.Writes db endpoint call) (hplain : endpoint.IsPlain x.incoming.body)
    (hdb : db.Conforms .sound) (hnow : x.now.isStorable = true)
    (hprice : ¬x.Underprices db endpoint) : call.Fits x.now := by
  have hnew : ∀ t ∈ Schema.entryInstants _, t.isStorable = true := isStorable_new hnow rfl
  have hrules {κ : Type} [Request κ] {request : κ} (hbody : x.body κ = .ok request) :
      Request.violations request = [] := violations_of_receive (receive_of_body hbody)
  cases h with
  | register request hbody =>
      have htexts := RegisterUser.hasStorableTexts (ofPlain_of_body hbody hplain)
        (Password.isStorableText_hash (x.random.take Password.saltLength) request.password)
      exact ⟨isStorable_of htexts hnew, fun _ => rfl⟩
  | updateUser caller request old _ _ hbody hmem =>
      have hold := hdb .users old hmem
      have htexts := UpdateUser.hasStorableTexts (ofPlain_of_body hbody hplain) hold.1.texts
      obtain ⟨husername, hemail, -, hrest⟩ := User.hasStorableTexts_iff.mp htexts
      have hempty : isStorableText "" = true := by decide
      have hgiven : HasStorableTexts (Editable.overwrite
          (HasEntry.modifyEntry (·.touched x.now) (request.apply old)) default) :=
        User.hasStorableTexts_iff.mpr ⟨husername, hemail, hempty, hrest⟩
      exact ⟨isStorable_of hgiven isStorable_unset, fun _ => rfl⟩
  | deleteUser => trivial
  | createKeeper row hrow =>
      cases hrow with
      | intro caller request _ hbody =>
          have htexts := CreateKeeper.hasStorableTexts (ofPlain_of_body hbody hplain) caller.userId
          have hbounds := CreateKeeper.inBounds (P := False) (hrules hbody) caller.userId
          refine ⟨isStorable_of htexts hnew, fun _ => Keeper.holds_iff.mpr ?_⟩
          exact ⟨hbounds.price, hbounds.boardingCapacity.1⟩
  | updateKeeper row hrow =>
      cases hrow with
      | intro caller request old hasks hpath hbody hmem hlive hown =>
          have hold := hdb .keepers old hmem
          have htexts := UpdateKeeper.hasStorableTexts (ofPlain_of_body hbody hplain) hold.texts
          obtain ⟨hstored, hcapacity⟩ := Keeper.holds_iff.mp hold.holds
          refine ⟨isStorable_of htexts isStorable_unset, fun _ => Keeper.holds_iff.mpr ⟨?_, ?_⟩⟩
          -- the price is the only checked column that no rule of an update covers
          · refine Change.notNegative_apply hstored fun hunder => hprice ?_
            exact .keeper caller request old hasks hpath hbody hmem hlive hown hunder
          · have hrange := Violation.ofOption_eq_nil.mp (hrules hbody)
            exact Change.of_apply (Q := fun n => 0 ≤ n) hcapacity
              fun n hn => (range_of_rule (hrange n hn)).1
  | deleteKeeper => trivial
  | createSeeker row hrow =>
      cases hrow with
      | intro caller request _ hbody =>
          have htexts := CreateSeeker.hasStorableTexts (ofPlain_of_body hbody hplain) caller.userId
          exact ⟨isStorable_of htexts hnew, fun _ => rfl⟩
  | updateSeeker row hrow =>
      cases hrow with
      | intro caller request old _ _ hbody hmem =>
          have hold := hdb .seekers old hmem
          have htexts := UpdateSeeker.hasStorableTexts (ofPlain_of_body hbody hplain) hold.texts
          exact ⟨isStorable_of htexts isStorable_unset, fun _ => rfl⟩
  | deleteSeeker => trivial
  | createVet row hrow =>
      cases hrow with
      | intro caller request _ hbody =>
          have htexts := CreateVet.hasStorableTexts (ofPlain_of_body hbody hplain) caller.userId
          have hbounds := CreateVet.inBounds (P := False) (hrules hbody) caller.userId
          refine ⟨isStorable_of htexts hnew, fun _ => Vet.holds_iff.mpr ?_⟩
          exact ⟨hbounds.experienceYears.1, hbounds.price⟩
  | updateVet row hrow =>
      cases hrow with
      | intro caller request old hasks hpath hbody hmem hlive hown =>
          have hold := hdb .vets old hmem
          have htexts := UpdateVet.hasStorableTexts (ofPlain_of_body hbody hplain) hold.texts
          obtain ⟨hyears, hstored⟩ := Vet.holds_iff.mp hold.holds
          refine ⟨isStorable_of htexts isStorable_unset, fun _ => Vet.holds_iff.mpr ⟨?_, ?_⟩⟩
          · have hvalid : request.violations = [] := hrules hbody
            simp only [UpdateVet.violations, List.append_eq_nil_iff, Violation.ofOption_eq_nil] at hvalid
            exact Change.of_apply (Q := fun n => 0 ≤ n) hyears
              fun n hn => (range_of_rule (hvalid.2 n hn)).1
          · refine Change.notNegative_apply hstored fun hunder => hprice ?_
            exact .vet caller request old hasks hpath hbody hmem hlive hown hunder
  | deleteVet => trivial
  | onBoard endpoint call hcall =>
      cases hcall with
      | create caller request status _ hbody hfirst =>
          have htexts := CreatePost.hasStorableTexts (ofPlain_of_body hbody hplain) caller.userId
            status.isStorableText_name
          refine ⟨isStorable_of htexts hnew, fun _ => ?_⟩
          exact (Posts.isSettable_of_firstStatus hfirst).isSome_ofName?
      | update caller request old _ _ hbody hmem _ _ _ hasks =>
          have hold := hdb .posts old hmem
          have htexts := UpdatePost.hasStorableTexts (ofPlain_of_body hbody hplain) hold.texts
          refine ⟨isStorable_of htexts isStorable_unset, fun _ => ?_⟩
          change (PostStatus.ofName? (Posts.revised old request x.now).status).isSome = true
          rcases Posts.status_revised old hasks x.now with hkept | hset
          · rw [hkept]
            exact hold.holds
          · exact hset.isSome_ofName?
      | file caller request id _ _ hbody =>
          have htexts := CreateReport.hasStorableTexts (ofPlain_of_body hbody hplain) id caller.userId
          have hinstant : x.now.stored.isStorable = true := by
            rw [Instant.isStorable_stored]
            exact hnow
          exact isStorable_of htexts (List.forall_mem_singleton.mpr hinstant)
      | delete | approve | block => trivial
  | createReview caller request keeper _ _ hbody hgrade =>
      have htexts := CreateReview.hasStorableTexts (ofPlain_of_body hbody hplain) keeper.entry.id
        caller.userId
      exact ⟨isStorable_of htexts hnew, fun _ => Database.holds_review.mpr hgrade⟩
  | updateReview caller request old _ _ hbody hgrade hmem =>
      have hold := hdb .reviews old hmem
      have htexts := UpdateReview.hasStorableTexts (ofPlain_of_body hbody hplain) hold.texts
      refine ⟨isStorable_of htexts isStorable_unset, fun _ => Database.holds_review.mpr ?_⟩
      exact Change.of_apply (Q := fun n => 1 ≤ n ∧ n ≤ 5) (Database.holds_review.mp hold.holds) hgrade
  | deleteReview => trivial
  | addFavourite | removeFavourite => trivial
  | createChat caller request _ hbody =>
      have htexts := CreateChat.hasStorableTexts (ofPlain_of_body hbody hplain) caller.userId
      exact isStorable_of htexts hnew
  | leaveChat => trivial
  | sendMessage caller request id _ _ hbody =>
      have htexts := SendMessage.hasStorableTexts (ofPlain_of_body hbody hplain) id caller.userId
      exact ⟨isStorable_of htexts hnew, fun _ => rfl⟩
  | updateMessage caller request old _ _ hbody hmem =>
      have hold := hdb .messages old hmem
      have htexts := UpdateMessage.hasStorableTexts (ofPlain_of_body hbody hplain) hold.texts
      exact ⟨isStorable_of htexts isStorable_unset, fun _ => rfl⟩
  | deleteMessage => trivial

end Exchange

end Fostering
