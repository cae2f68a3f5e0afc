import Fostering.Proofs.Passwords
import Fostering.Proofs.Requests.Texts

/-!
# What stored rows are like

As long as nothing but requests happens to a database, its rows are *sound*: their texts have stored
forms, they pass the checks of their tables, and the password of a user is kept in the form in which
the service writes it. All but the last the database sees to by itself; the form of a password is up to
the service, which has to have enough fresh bytes for a salt.

* `Store.Call.respects_sound`: whatever is written is sound, the passwords of new users apart.
* `Database.sound_after`: all rows are sound after every run of requests.
-/

namespace Fostering

/-- The texts of a row have stored forms, and it passes the checks of its table. -/
structure IsSound {ρ : Type} [Schema ρ] (row : ρ) : Prop where
  texts : HasStorableTexts row
  holds : Schema.holds row = true

/-- The password of a user is kept in the form in which the service writes it. -/
def User.HasPassword (u : User) : Prop :=
  ∃ salt password, salt.length = Password.saltLength ∧ u.passwordHash = Password.hash salt password

/-- A password can be held against one that is kept as the service writes it. -/
theorem User.HasPassword.exists_verdict {u : User} (h : u.HasPassword)
    (password : String) : ∃ verdict, Password.verify password u.passwordHash = .ok verdict := by
  obtain ⟨salt, stored, hsalt, hstored⟩ := h
  rw [hstored]
  exact ⟨_, Password.verify_hash hsalt password stored⟩

/-- The service writes passwords without the null character. -/
theorem Password.isStorableText_hash (salt : Bytes) (password : String) :
    isStorableText (hash salt password) = true := by
  have hencoded (bytes : Bytes) : '\x00' ∉ Base64.encodeChars .standard bytes := fun h =>
    absurd (isValueChar_of_mem h) (by decide)
  have hstart : '\x00' ∉ standardStart.toList := by decide
  have hmark : '\x00' ∉ "$".toList := by decide
  have hnone : '\x00' ∉ (hash salt password).toList := by
    unfold hash Base64.encode
    simp only [String.toList_append, String.toList_ofList, List.mem_append, not_or]
    exact ⟨⟨⟨hstart, hencoded _⟩, hmark⟩, hencoded _⟩
  simpa [isStorableText] using hnone

/-- Names of statuses can be stored. -/
theorem PostStatus.isStorableText_name (status : PostStatus) : isStorableText status.name = true := by
  cases status <;> decide

/-- All rows are sound. -/
def RowRules.sound : RowRules where
  user := ⟨fun u => IsSound u ∧ u.HasPassword, fun _ _ h => ⟨⟨h.1.texts, h.1.holds⟩, h.2⟩⟩
  keeper := ⟨IsSound, fun _ _ h => ⟨h.texts, h.holds⟩⟩
  seeker := ⟨IsSound, fun _ _ h => ⟨h.texts, h.holds⟩⟩
  vet := ⟨IsSound, fun _ _ h => ⟨h.texts, h.holds⟩⟩
  post := ⟨IsSound, fun _ _ h => ⟨h.texts, h.holds⟩⟩
  review := ⟨IsSound, fun _ _ h => ⟨h.texts, h.holds⟩⟩
  message := ⟨IsSound, fun _ _ h => ⟨h.texts, h.holds⟩⟩
  rated _ _ h := ⟨h.texts, h.holds⟩
  moderated status _ p h := by
    obtain ⟨htitle, hbody, -, htype, hcity⟩ := Post.hasStorableTexts_iff.mp h.texts
    refine ⟨Post.hasStorableTexts_iff.mpr ⟨htitle, hbody, ?_, htype, hcity⟩, ?_⟩
    · exact status.isStorableText_name
    · exact Option.isSome_iff_exists.mpr ⟨status, PostStatus.ofName?_name status⟩

/-! ## Calls -/

namespace Store

/-- The texts of a row that can be stored can be. -/
theorem hasStorableTexts_of_isStorable {ρ : Type} [Schema ρ] {row : ρ}
    (h : Schema.isStorable row = true) : HasStorableTexts row :=
  List.all_eq_true.mp (Bool.and_eq_true_iff.mp h).1

/-- The rows that a call writes are sound, if all texts of a changed row are given with the change. -/
theorem RecordCall.respects_sound {ρ φ : Type} [Editable ρ] (call : RecordCall ρ φ) {Q : RowRule ρ}
    (hQ : Q.Holds = IsSound)
    (hid : ∀ (id : Int) (row : ρ), Schema.texts (Table.setId id row) = Schema.texts row)
    (hgiven : ∀ (given old : ρ) now,
      Schema.texts (Database.changed given old now) = Schema.texts (Editable.overwrite given default)) :
    call.Respects Q := by
  cases call with
  | create given =>
      intro id hstorable hholds
      rw [hQ]
      refine ⟨?_, hholds⟩
      unfold HasStorableTexts
      rw [hid]
      exact hasStorableTexts_of_isStorable hstorable
  | update given =>
      intro old now _ hstorable hholds
      rw [hQ]
      refine ⟨?_, hholds⟩
      unfold HasStorableTexts
      rw [hgiven]
      exact hasStorableTexts_of_isStorable hstorable
  | find | findAny | list | delete => trivial

/-- **Whatever is written is sound, as long as new users have passwords.** -/
theorem Call.respects_sound (call : Call) (h : ∀ u, call = .user (.create u) → u.HasPassword) :
    call.Respects .sound := by
  cases call with
  | user call =>
      cases call with
      | create given =>
          intro id hstorable hholds
          exact ⟨⟨hasStorableTexts_of_isStorable hstorable, hholds⟩, h given rfl⟩
      | update given =>
          -- A change leaves the password alone, so that text is the one of the stored row.
          intro old now hold hstorable hholds
          have hgiven := User.hasStorableTexts_iff.mp (hasStorableTexts_of_isStorable hstorable)
          have hkept := User.hasStorableTexts_iff.mp hold.1.texts
          obtain ⟨husername, hemail, -, hnames⟩ := hgiven
          refine ⟨⟨User.hasStorableTexts_iff.mpr ⟨husername, hemail, hkept.2.2.1, hnames⟩, hholds⟩, ?_⟩
          exact hold.2
      | find | findAny | list | delete => trivial
  | keeper call => exact call.respects_sound rfl (fun _ _ => rfl) fun _ _ _ => rfl
  | seeker call => exact call.respects_sound rfl (fun _ _ => rfl) fun _ _ _ => rfl
  | vet call => exact call.respects_sound rfl (fun _ _ => rfl) fun _ _ _ => rfl
  | post call => exact call.respects_sound rfl (fun _ _ => rfl) fun _ _ _ => rfl
  | review call => exact call.respects_sound rfl (fun _ _ => rfl) fun _ _ _ => rfl
  | message call => exact call.respects_sound rfl (fun _ _ => rfl) fun _ _ _ => rfl
  | _ => trivial

end Store

/-! ## Requests -/

namespace Exchange

variable {x : Exchange} {db : Database} {endpoint : Endpoint}

/-- New users have passwords, if there are enough fresh bytes for a salt. -/
theorem Writes.hasPassword {u : User} (h : x.Writes db endpoint (.user (.create u)))
    (hrandom : Password.saltLength ≤ x.random.length) : u.HasPassword := by
  cases h with
  | register request =>
      refine ⟨x.random.take Password.saltLength, request.password, ?_, rfl⟩
      exact List.length_take_of_le hrandom
  | onBoard _ _ h => cases h

end Exchange

namespace Database

variable {config : Config} {db : Database} {a : Arrival} {run : List Arrival}

/-- Requests keep the rows of a database as they should be. -/
theorem sound_serve (hrandom : Password.saltLength ≤ a.random.length) (h : db.Conforms .sound) :
    (db.serve config a).Conforms .sound := by
  rcases serve_writes config db a with hframe | ⟨endpoint, id?, call, hfind, hcall, -, heq⟩
  · refine h.of_onlyChanges hframe fun name hname => ?_
    obtain rfl := List.mem_singleton.mp hname
    trivial
  · rw [heq]
    refine conforms_perform call (call.respects_sound ?_) h
    rintro u rfl
    exact hcall.hasPassword hrandom

/-- **All rows are sound after every run of requests with enough fresh bytes.** -/
theorem sound_after (hrandom : ∀ a ∈ run, Password.saltLength ≤ a.random.length) :
    (serveAll config {} run).Conforms .sound :=
  serveAll_induction (fun a ha _ h => sound_serve (hrandom a ha) h) (conforms_empty _)

end Database

end Fostering
