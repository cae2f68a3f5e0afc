import Fostering.Proofs.Requests.Bounds

/-!
# Texts in requests

A database has no form for the null character. A request is *plain* (`Incoming.IsPlain`) if the
character stands in no text of it: in no value of its query, and in no text of its body as the endpoint
reads it. Whatever the service makes of a plain request has a stored form, too, as long as the row that
it changes has one.

The entries of an index have room for short texts only. The rules of requests keep every text short that an
index takes up, but for one: the city of a keeper may be changed to a text of any length.

* `Exchange.ofPlain_of_body`: the request in a plain body was read from a plain row.
* `Endpoint.fitsIndexes_of_ne`: which texts have room in indexes by the rules of requests.
* `RegisterUser.hasStorableTexts` and so on: the texts of the rows that are made of such requests.
* `Query.storable_userFilter` and so on: the texts of filters.
-/

namespace Fostering

/-! ## Plain requests -/

namespace Json

/-- No text in a value has the null character. -/
def Kind.IsPlain : (kind : Kind) → kind.Value → Prop
  | .text, value => isStorableText value = true
  | .texts, values => ∀ value ∈ values, isStorableText value = true
  | .flag, _ | .whole _, _ | .wholes _, _ | .raw, _ => True

/-- No text in the value of a field has the null character. -/
def Field.IsPlain : (field : Field) → field.Value → Prop
  | ⟨_, kind, .required⟩, value => kind.IsPlain value
  | ⟨_, kind, .defaulted⟩, value => kind.IsPlain value
  | ⟨_, kind, .optional⟩, value? => ∀ value ∈ value?, kind.IsPlain value
  | ⟨_, kind, .changeable⟩, change => ∀ value ∈ change.value?, kind.IsPlain value
  | ⟨_, kind, .clearable⟩, change => ∀ value? ∈ change.value?, ∀ value ∈ value?, kind.IsPlain value

/-- No text in a row has the null character. -/
def Row.IsPlain : (fields : List Field) → Row fields → Prop
  | [], _ => True
  | field :: fields, (value, row) => field.IsPlain value ∧ IsPlain fields row

/-- What an absent field holds is plain. -/
theorem Kind.isPlain_empty (kind : Kind) : kind.IsPlain kind.empty := by
  cases kind with
  | text => exact show isStorableText "" = true by decide
  | texts => exact fun _ h => absurd h List.not_mem_nil
  | flag | whole | wholes | raw => trivial

/-- A row that nobody filled in is plain. -/
theorem Row.isPlain_empty (fields : List Field) : IsPlain fields (empty fields) := by
  induction fields with
  | nil => trivial
  | cons field fields ih =>
      refine ⟨?_, ih⟩
      obtain ⟨name, kind, presence⟩ := field
      cases presence with
      | required | defaulted => exact kind.isPlain_empty
      | optional | changeable | clearable => exact fun _ h => nomatch h

end Json

/-- No text in a body has the null character, as it is read for a kind of request. -/
def Request.IsPlain (κ : Type) [Request κ] (body : Bytes) : Prop :=
  ∀ row, Json.Shape.read (shape κ) body = .ok row → Json.Row.IsPlain _ row

/-- No text in a body has the null character, as an endpoint reads it. -/
def Endpoint.IsPlain (body : Bytes) : Endpoint → Prop
  | register => Request.IsPlain RegisterUser body
  | login => Request.IsPlain LoginRequest body
  | refresh => Request.IsPlain RefreshRequest body
  | logout => Request.IsPlain LogoutRequest body
  | updateUser => Request.IsPlain UpdateUser body
  | createKeeper => Request.IsPlain CreateKeeper body
  | updateKeeper => Request.IsPlain UpdateKeeper body
  | createReview => Request.IsPlain CreateReview body
  | updateReview => Request.IsPlain UpdateReview body
  | createSeeker => Request.IsPlain CreateSeeker body
  | updateSeeker => Request.IsPlain UpdateSeeker body
  | createVet => Request.IsPlain CreateVet body
  | updateVet => Request.IsPlain UpdateVet body
  | createPost => Request.IsPlain CreatePost body
  | updatePost => Request.IsPlain UpdatePost body
  | createReport => Request.IsPlain CreateReport body
  | createChat => Request.IsPlain CreateChat body
  | sendMessage => Request.IsPlain SendMessage body
  | updateMessage => Request.IsPlain UpdateMessage body
  | _ => True

/-- No value in a query has the null character. -/
def Query.IsPlain (query : Bytes) : Prop := ∀ pair ∈ pairs query, isStorableText pair.2 = true

/-- No text in a request has the null character. -/
structure Incoming.IsPlain (incoming : Incoming) : Prop where
  query : Query.IsPlain incoming.query
  body : ∀ endpoint id?, Endpoint.find incoming = .endpoint endpoint id? →
    endpoint.IsPlain incoming.body

/-- What is taken from a body was read from it. -/
theorem read_of_receive {κ : Type} [Request κ] {body : Bytes} {request : κ}
    (h : receive κ body = .ok request) : Request.read κ body = .ok request := by
  unfold receive at h
  by_cases hlong : maxBody < body.length
  · rw [if_pos hlong] at h
    cases h
  · rw [if_neg hlong] at h
    rcases hread : Request.read κ body with fault | request'
    · rw [hread] at h
      cases h
    · rw [hread] at h
      rcases hvalid : validate (Request.violations request') with cause | ⟨⟩
      · simp only [hvalid] at h
        cases h
      · simp only [hvalid] at h
        cases h
        rfl

/-- A request was read from a row without the null character. -/
def Request.OfPlain {κ : Type} [Request κ] (request : κ) : Prop :=
  ∃ row, Json.Row.IsPlain (shape κ).fields row ∧ ofRow row = request

/-- The request in a plain body was read from a plain row. -/
theorem Exchange.ofPlain_of_body {κ : Type} [Request κ] {x : Exchange} {request : κ}
    (h : x.body κ = .ok request) (hplain : Request.IsPlain κ x.incoming.body) :
    Request.OfPlain request := by
  have hread := read_of_receive (receive_of_body h)
  unfold Request.read at hread
  split_ifs at hread
  · cases hread
    exact ⟨_, Json.Row.isPlain_empty _, rfl⟩
  · rcases hrow : Json.Shape.read (Request.shape κ) x.incoming.body with fault | row
    · rw [hrow] at hread
      cases hread
    · rw [hrow] at hread
      cases hread
      exact ⟨row, hplain row hrow, rfl⟩

/-! ## Texts in indexes -/

/-- A text has room in the entry of an index, however little it can be compressed. An entry takes up at most
2704 bytes, a third of a page, and up to twenty of them go to what else stands in it. -/
def HasIndexRoom (text : String) : Prop := text.utf8ByteSize ≤ 2684

/-- A character takes up at most four bytes. -/
theorem hasIndexRoom_of_length {text : String} (h : text.length ≤ 671) : HasIndexRoom text := by
  have hsize (cs : List Char) : (String.ofList cs).utf8ByteSize ≤ 4 * cs.length := by
    induction cs with
    | nil => exact Nat.le_refl _
    | cons c cs ih =>
        have hc : c.utf8Size ≤ 4 := c.utf8Size_le_four
        rw [String.ofList_cons, String.utf8ByteSize_append, String.utf8ByteSize_singleton, List.length_cons]
        omega
  have hmost := hsize text.toList
  rw [String.ofList_toList, String.length_toList] at hmost
  unfold HasIndexRoom
  omega

/-- A mail address has at most 64 characters before the at sign, and 255 after it. -/
theorem Text.length_of_isEmail {text : String} (h : Text.isEmail text = true) : text.length ≤ 320 := by
  unfold Text.isEmail Text.splitAddress? at h
  rcases hdrop : text.toList.reverse.dropWhile (· ≠ '@') with _ | ⟨at', before⟩
  · simp only [hdrop] at h
    cases h
  · simp only [hdrop, Bool.and_eq_true, decide_eq_true_eq, List.length_reverse] at h
    have hsplit := congrArg List.length
      (List.takeWhile_append_dropWhile (p := fun c => decide (c ≠ '@')) (l := text.toList.reverse))
    rw [hdrop, List.length_append, List.length_cons, List.length_reverse, String.length_toList] at hsplit
    omega

/-- What requests of a kind name for columns with an index has room there. -/
def Request.FitsIndexes (κ : Type) [Request κ] (indexed : κ → List String) (body : Bytes) : Prop :=
  ∀ request, receive κ body = .ok request → ∀ text ∈ indexed request, HasIndexRoom text

/-- What an endpoint takes from a body for columns with an index has room there. (Statuses of posts have an
index, too, but there are only four of them.) -/
def Endpoint.FitsIndexes (body : Bytes) : Endpoint → Prop
  | register => Request.FitsIndexes RegisterUser (fun r => [r.username, r.email]) body
  | login => Request.FitsIndexes LoginRequest (fun r => [r.fingerprint]) body
  | refresh => Request.FitsIndexes RefreshRequest (fun r => [r.fingerprint]) body
  | updateUser =>
    Request.FitsIndexes UpdateUser (fun r => r.username.value?.toList ++ r.email.value?.toList) body
  | createKeeper => Request.FitsIndexes CreateKeeper (fun r => r.city.toList) body
  | updateKeeper => Request.FitsIndexes UpdateKeeper (fun r => r.city.value?.join.toList) body
  | _ => True

/-- What is taken from a body for indexes has room there if the rules of the request say so. -/
theorem Request.fitsIndexes_of_rules {κ : Type} [Request κ] {indexed : κ → List String}
    (h : ∀ request : κ, Request.violations request = [] → ∀ text ∈ indexed request, text.length ≤ 671)
    (body : Bytes) : FitsIndexes κ indexed body :=
  fun request hreceive text htext =>
    hasIndexRoom_of_length (h request (violations_of_receive hreceive) text htext)

/-- **Rules see to it that texts have room in indexes, but for the city of a keeper that is changed.** -/
theorem Endpoint.fitsIndexes_of_ne {endpoint : Endpoint} (h : endpoint ≠ .updateKeeper) (body : Bytes) :
    endpoint.FitsIndexes body := by
  have hname {text : String}
      (hrule : Violation.ofLength "username" (some 3) (some 32) text = []) : text.length ≤ 671 :=
    Nat.le_trans (length_of_rule hrule).2 (by decide)
  have hprint {text : String}
      (hrule : Violation.ofLength "fingerprint" (some 1) (some 255) text = []) : text.length ≤ 671 :=
    Nat.le_trans (length_of_rule hrule).2 (by decide)
  have hemail {text : String} (hrule : Violation.ofEmail "email" text = []) : text.length ≤ 671 := by
    have hvalid : Text.isEmail text = true := by
      by_contra hnot
      unfold Violation.ofEmail at hrule
      rw [if_neg hnot] at hrule
      cases hrule
    exact Nat.le_trans (Text.length_of_isEmail hvalid) (by decide)
  cases endpoint with
  | updateKeeper => exact absurd rfl h
  | register =>
      refine Request.fitsIndexes_of_rules (fun r hr => ?_) body
      simp only [Request.violations, RegisterUser.violations, List.append_assoc, List.append_eq_nil_iff] at hr
      obtain ⟨husername, haddress, -⟩ := hr
      exact List.forall_mem_cons.mpr ⟨hname husername, List.forall_mem_singleton.mpr (hemail haddress)⟩
  | login =>
      refine Request.fitsIndexes_of_rules (fun r hr => ?_) body
      simp only [Request.violations, LoginRequest.violations, List.append_eq_nil_iff] at hr
      exact List.forall_mem_singleton.mpr (hprint hr.2)
  | refresh =>
      refine Request.fitsIndexes_of_rules (fun r hr => ?_) body
      simp only [Request.violations, RefreshRequest.violations, List.append_eq_nil_iff] at hr
      exact List.forall_mem_singleton.mpr (hprint hr.2)
  | updateUser =>
      refine Request.fitsIndexes_of_rules (fun r hr text htext => ?_) body
      simp only [Request.violations, UpdateUser.violations, List.append_assoc, List.append_eq_nil_iff,
        Violation.ofOption_eq_nil] at hr
      obtain ⟨husername, haddress, -⟩ := hr
      rcases List.mem_append.mp htext with hmem | hmem
      · exact hname (husername text (Option.mem_toList.mp hmem))
      · exact hemail (haddress text (Option.mem_toList.mp hmem))
  | createKeeper =>
      refine Request.fitsIndexes_of_rules (fun r hr text htext => ?_) body
      simp only [Request.violations, CreateKeeper.violations, List.append_eq_nil_iff] at hr
      exact Nat.le_trans (atMost_of_rule hr.2 text (Option.mem_toList.mp htext)) (by decide)
  | _ => trivial

/-! ## Rows -/

/-- A text, if there is one, has a stored form. -/
def StorableIfAny (text? : Option String) : Prop := ∀ text ∈ text?, isStorableText text = true

/-- All texts of a row have stored forms. -/
def HasStorableTexts {ρ : Type} [Schema ρ] (row : ρ) : Prop :=
  ∀ text ∈ Schema.texts row, isStorableText text = true

/-- The texts that are there are those of which none is missing. -/
theorem forall_mem_presentTexts {texts? : List (Option String)} :
    (∀ text ∈ presentTexts texts?, isStorableText text = true) ↔
      ∀ text? ∈ texts?, StorableIfAny text? := by
  simp only [presentTexts, List.mem_filterMap, id_eq, StorableIfAny, Option.mem_def]
  constructor
  · rintro h text? hmem text rfl
    exact h text ⟨_, hmem, rfl⟩
  · rintro h text ⟨text?, hmem, rfl⟩
    exact h _ hmem text rfl

section

variable {u : User} {k : Keeper} {s : Seeker} {v : Vet} {p : Post} {r : Review}

/-- The texts of an account. -/
theorem User.hasStorableTexts_iff : HasStorableTexts u ↔
    isStorableText u.username = true ∧ isStorableText u.email = true ∧
      isStorableText u.passwordHash = true ∧ isStorableText u.firstName = true ∧
      isStorableText u.lastName = true ∧ StorableIfAny u.city ∧ StorableIfAny u.phone ∧ StorableIfAny u.about := by
  simp [HasStorableTexts, Schema.texts, forall_mem_presentTexts]

/-- The texts of a keeper. -/
theorem Keeper.hasStorableTexts_iff : HasStorableTexts k ↔
    StorableIfAny k.description ∧ StorableIfAny k.animalTypes ∧ StorableIfAny k.city := by
  simp [HasStorableTexts, Schema.texts, forall_mem_presentTexts]

/-- The texts of a seeker. -/
theorem Seeker.hasStorableTexts_iff : HasStorableTexts s ↔
    StorableIfAny s.description ∧ StorableIfAny s.animalType ∧ StorableIfAny s.city := by
  simp [HasStorableTexts, Schema.texts, forall_mem_presentTexts]

/-- The texts of a vet. -/
theorem Vet.hasStorableTexts_iff : HasStorableTexts v ↔
    isStorableText v.clinicName = true ∧ StorableIfAny v.specialization ∧ StorableIfAny v.city := by
  simp [HasStorableTexts, Schema.texts, forall_mem_presentTexts]

/-- The texts of a post. -/
theorem Post.hasStorableTexts_iff : HasStorableTexts p ↔
    isStorableText p.title = true ∧ isStorableText p.body = true ∧ isStorableText p.status = true ∧
      StorableIfAny p.animalType ∧ StorableIfAny p.city := by
  simp [HasStorableTexts, Schema.texts, forall_mem_presentTexts]

/-- The text of a review. -/
theorem Review.hasStorableTexts_iff : HasStorableTexts r ↔ StorableIfAny r.comment := by
  simp [HasStorableTexts, Schema.texts, forall_mem_presentTexts]

end

section

variable {change : Change String} {change? : Change (Option String)}

/-- What a plain change makes of a text that has a stored form has one. -/
theorem storable_apply (h : ∀ text ∈ change.value?, isStorableText text = true) {stored : String}
    (hstored : isStorableText stored = true) : isStorableText (change.apply stored) = true :=
  Change.of_apply (Q := fun text => isStorableText text = true) hstored h

/-- What a plain change makes of a text that may be absent has a stored form if there is one. -/
theorem storableIfAny_apply (h : ∀ text? ∈ change?.value?, StorableIfAny text?)
    {stored? : Option String} (hstored : StorableIfAny stored?) :
    StorableIfAny (change?.apply stored?) :=
  Change.of_apply (Q := StorableIfAny) hstored h

end

/-! ## Requests for new records -/

/-- Whoever registers plainly has texts that can be stored. -/
theorem RegisterUser.hasStorableTexts {r : RegisterUser} (h : Request.OfPlain r) {hash : String}
    (hhash : isStorableText hash = true) : HasStorableTexts (r.toUser hash) := by
  obtain ⟨⟨username, email, password, firstName, lastName, city, phone, about, ⟨⟩⟩, hrow, rfl⟩ := h
  obtain ⟨husername, hemail, -, hfirst, hlast, hcity, hphone, habout, -⟩ := hrow
  exact User.hasStorableTexts_iff.mpr ⟨husername, hemail, hhash, hfirst, hlast, hcity, hphone, habout⟩

/-- A plain request for a keeper has texts that can be stored. -/
theorem CreateKeeper.hasStorableTexts {r : CreateKeeper} (h : Request.OfPlain r) (userId : Int) :
    HasStorableTexts (r.toKeeper userId) := by
  obtain ⟨⟨description, price, hasCage, capacity, animalTypes, city, ⟨⟩⟩, hrow, rfl⟩ := h
  obtain ⟨hdescription, -, -, -, htypes, hcity, -⟩ := hrow
  exact Keeper.hasStorableTexts_iff.mpr ⟨hdescription, htypes, hcity⟩

theorem CreateSeeker.hasStorableTexts {r : CreateSeeker} (h : Request.OfPlain r) (userId : Int) :
    HasStorableTexts (r.toSeeker userId) := by
  obtain ⟨⟨description, animalType, city, ⟨⟩⟩, hrow, rfl⟩ := h
  obtain ⟨hdescription, htype, hcity, -⟩ := hrow
  exact Seeker.hasStorableTexts_iff.mpr ⟨hdescription, htype, hcity⟩

theorem CreateVet.hasStorableTexts {r : CreateVet} (h : Request.OfPlain r) (userId : Int) :
    HasStorableTexts (r.toVet userId) := by
  obtain ⟨⟨clinicName, specialization, experience, price, city, ⟨⟩⟩, hrow, rfl⟩ := h
  obtain ⟨hclinic, hspecialization, -, -, hcity, -⟩ := hrow
  exact Vet.hasStorableTexts_iff.mpr ⟨hclinic, hspecialization, hcity⟩

theorem CreatePost.hasStorableTexts {r : CreatePost} (h : Request.OfPlain r) (authorId : Int)
    {status : String} (hstatus : isStorableText status = true) :
    HasStorableTexts { r.toPost authorId with status } := by
  obtain ⟨⟨title, body, animalType, city, asked, ⟨⟩⟩, hrow, rfl⟩ := h
  obtain ⟨htitle, hbody, htype, hcity, -, -⟩ := hrow
  exact Post.hasStorableTexts_iff.mpr ⟨htitle, hbody, hstatus, htype, hcity⟩

theorem CreateReview.hasStorableTexts {r : CreateReview} (h : Request.OfPlain r)
    (keeperId authorId : Int) : HasStorableTexts (r.toReview keeperId authorId) := by
  obtain ⟨⟨grade, comment, ⟨⟩⟩, hrow, rfl⟩ := h
  exact Review.hasStorableTexts_iff.mpr hrow.2.1

theorem CreateReport.hasStorableTexts {r : CreateReport} (h : Request.OfPlain r)
    (postId reporterId : Int) : HasStorableTexts (r.toReport postId reporterId) := by
  obtain ⟨⟨reason, ⟨⟩⟩, hrow, rfl⟩ := h
  exact List.forall_mem_singleton.mpr hrow.1

theorem CreateChat.hasStorableTexts {r : CreateChat} (h : Request.OfPlain r) (creatorId : Int) :
    HasStorableTexts (r.toChat creatorId) := by
  obtain ⟨⟨title, memberIds, ⟨⟩⟩, hrow, rfl⟩ := h
  exact forall_mem_presentTexts.mpr (List.forall_mem_singleton.mpr hrow.1)

theorem SendMessage.hasStorableTexts {r : SendMessage} (h : Request.OfPlain r)
    (chatId senderId : Int) : HasStorableTexts (r.toMessage chatId senderId) := by
  obtain ⟨⟨content, ⟨⟩⟩, hrow, rfl⟩ := h
  exact List.forall_mem_singleton.mpr hrow.1

/-! ## Requests to change records -/

/-- An account whose texts can be stored is still such after a plain change. -/
theorem UpdateUser.hasStorableTexts {r : UpdateUser} (h : Request.OfPlain r) {old : User}
    (hold : HasStorableTexts old) : HasStorableTexts (r.apply old) := by
  obtain ⟨⟨username, email, firstName, lastName, city, phone, about, ⟨⟩⟩, hrow, rfl⟩ := h
  obtain ⟨husername, hemail, hfirst, hlast, hcity, hphone, habout, -⟩ := hrow
  obtain ⟨ousername, oemail, ohash, ofirst, olast, ocity, ophone, oabout⟩ :=
    User.hasStorableTexts_iff.mp hold
  refine User.hasStorableTexts_iff.mpr ⟨?_, ?_, ohash, ?_, ?_, ?_, ?_, ?_⟩
  · exact storable_apply husername ousername
  · exact storable_apply hemail oemail
  · exact storable_apply hfirst ofirst
  · exact storable_apply hlast olast
  · exact storableIfAny_apply hcity ocity
  · exact storableIfAny_apply hphone ophone
  · exact storableIfAny_apply habout oabout

theorem UpdateKeeper.hasStorableTexts {r : UpdateKeeper} (h : Request.OfPlain r) {old : Keeper}
    (hold : HasStorableTexts old) : HasStorableTexts (r.apply old) := by
  obtain ⟨⟨description, price, hasCage, capacity, animalTypes, city, ⟨⟩⟩, hrow, rfl⟩ := h
  obtain ⟨hdescription, -, -, -, htypes, hcity, -⟩ := hrow
  obtain ⟨odescription, otypes, ocity⟩ := Keeper.hasStorableTexts_iff.mp hold
  refine Keeper.hasStorableTexts_iff.mpr ⟨?_, ?_, ?_⟩
  · exact storableIfAny_apply hdescription odescription
  · exact storableIfAny_apply htypes otypes
  · exact storableIfAny_apply hcity ocity

theorem UpdateSeeker.hasStorableTexts {r : UpdateSeeker} (h : Request.OfPlain r) {old : Seeker}
    (hold : HasStorableTexts old) : HasStorableTexts (r.apply old) := by
  obtain ⟨⟨description, animalType, city, ⟨⟩⟩, hrow, rfl⟩ := h
  obtain ⟨hdescription, htype, hcity, -⟩ := hrow
  obtain ⟨odescription, otype, ocity⟩ := Seeker.hasStorableTexts_iff.mp hold
  refine Seeker.hasStorableTexts_iff.mpr ⟨?_, ?_, ?_⟩
  · exact storableIfAny_apply hdescription odescription
  · exact storableIfAny_apply htype otype
  · exact storableIfAny_apply hcity ocity

theorem UpdateVet.hasStorableTexts {r : UpdateVet} (h : Request.OfPlain r) {old : Vet}
    (hold : HasStorableTexts old) : HasStorableTexts (r.apply old) := by
  obtain ⟨⟨clinicName, specialization, experience, price, city, ⟨⟩⟩, hrow, rfl⟩ := h
  obtain ⟨hclinic, hspecialization, -, -, hcity, -⟩ := hrow
  obtain ⟨oclinic, ospecialization, ocity⟩ := Vet.hasStorableTexts_iff.mp hold
  refine Vet.hasStorableTexts_iff.mpr ⟨?_, ?_, ?_⟩
  · exact storable_apply hclinic oclinic
  · exact storableIfAny_apply hspecialization ospecialization
  · exact storableIfAny_apply hcity ocity

theorem UpdatePost.hasStorableTexts {r : UpdatePost} (h : Request.OfPlain r) {old : Post}
    (hold : HasStorableTexts old) : HasStorableTexts (r.apply old) := by
  obtain ⟨⟨title, body, animalType, city, status, ⟨⟩⟩, hrow, rfl⟩ := h
  obtain ⟨htitle, hbody, htype, hcity, hstatus, -⟩ := hrow
  obtain ⟨otitle, obody, ostatus, otype, ocity⟩ := Post.hasStorableTexts_iff.mp hold
  refine Post.hasStorableTexts_iff.mpr ⟨?_, ?_, ?_, ?_, ?_⟩
  · exact storable_apply htitle otitle
  · exact storable_apply hbody obody
  · exact storable_apply hstatus ostatus
  · exact storableIfAny_apply htype otype
  · exact storableIfAny_apply hcity ocity

theorem UpdateReview.hasStorableTexts {r : UpdateReview} (h : Request.OfPlain r) {old : Review}
    (hold : HasStorableTexts old) : HasStorableTexts (r.apply old) := by
  obtain ⟨⟨grade, comment, ⟨⟩⟩, hrow, rfl⟩ := h
  have hcomment := Review.hasStorableTexts_iff.mp hold
  exact Review.hasStorableTexts_iff.mpr (storableIfAny_apply hrow.2.1 hcomment)

theorem UpdateMessage.hasStorableTexts {r : UpdateMessage} (h : Request.OfPlain r) {old : Message}
    (hold : HasStorableTexts old) : HasStorableTexts (r.apply old) := by
  obtain ⟨⟨content, ⟨⟩⟩, hrow, rfl⟩ := h
  have hcontent := hold old.content List.mem_cons_self
  exact List.forall_mem_singleton.mpr (storable_apply hrow.1 hcontent)

/-! ## Filters -/

namespace Query

/-- What is read of a query are all its pairs, whichever are asked for. -/
theorem eq_pairs_of_read {fields : List (String × Kind)} {query : Bytes}
    {found : List (String × String)} (h : read fields query = .ok found) : found = pairs query := by
  unfold read at h
  split at h
  · cases h
  · cases h
    rfl

/-- What stands under a key is one of the values. -/
theorem mem_of_lookup {found : List (String × String)} {key value : String}
    (h : found.lookup key = some value) : ∃ pair ∈ found, pair.2 = value := by
  induction found with
  | nil => cases h
  | cons pair found ih =>
      obtain ⟨key', value'⟩ := pair
      rw [List.lookup_cons] at h
      split at h
      · cases h
        exact ⟨_, List.mem_cons_self, rfl⟩
      · obtain ⟨pair, hpair, heq⟩ := ih h
        exact ⟨pair, List.mem_cons_of_mem _ hpair, heq⟩

variable {query : Bytes}

/-- What is read from a plain query has stored forms. -/
theorem IsPlain.lookup (h : IsPlain query) {fields : List (String × Kind)}
    {found : List (String × String)} (hread : read fields query = .ok found) (key : String) :
    StorableIfAny (found.lookup key) := by
  intro value hvalue
  obtain ⟨pair, hpair, rfl⟩ := mem_of_lookup hvalue
  rw [eq_pairs_of_read hread] at hpair
  exact h pair hpair

/-- A filter was made of pairs that were found. -/
theorem exists_found {φ : Type} {fields : List (String × Kind)} {make : List (String × String) → φ}
    {filter : φ} (h : (read fields query >>= fun found => .ok (make found)) = .ok filter) :
    ∃ found, read fields query = .ok found ∧ make found = filter := by
  rcases hread : read fields query with fault | found
  · rw [hread] at h
    cases h
  · rw [hread] at h
    cases h
    exact ⟨found, rfl, rfl⟩

/-- A plain query gives the filter of users texts that can be compared with stored ones. -/
theorem storable_userFilter (h : IsPlain query) {filter : UserFilter}
    (hread : userFilter query = .ok filter) :
    ∀ text ∈ Filter.texts User filter, isStorableText text = true := by
  obtain ⟨found, hfound, rfl⟩ := exists_found hread
  have hlookup := h.lookup hfound
  exact forall_mem_presentTexts.mpr (List.forall_mem_singleton.mpr (hlookup "city"))

theorem storable_keeperFilter (h : IsPlain query) {filter : KeeperFilter}
    (hread : keeperFilter query = .ok filter) :
    ∀ text ∈ Filter.texts Keeper filter, isStorableText text = true := by
  obtain ⟨found, hfound, rfl⟩ := exists_found hread
  have hlookup := h.lookup hfound
  exact forall_mem_presentTexts.mpr (List.forall_mem_singleton.mpr (hlookup "city"))

theorem storable_seekerFilter (h : IsPlain query) {filter : SeekerFilter}
    (hread : seekerFilter query = .ok filter) :
    ∀ text ∈ Filter.texts Seeker filter, isStorableText text = true := by
  obtain ⟨found, hfound, rfl⟩ := exists_found hread
  have hlookup := h.lookup hfound
  exact forall_mem_presentTexts.mpr (by simp [hlookup])

theorem storable_vetFilter (h : IsPlain query) {filter : VetFilter}
    (hread : vetFilter query = .ok filter) :
    ∀ text ∈ Filter.texts Vet filter, isStorableText text = true := by
  obtain ⟨found, hfound, rfl⟩ := exists_found hread
  have hlookup := h.lookup hfound
  exact forall_mem_presentTexts.mpr (by simp [hlookup])

/-- Who may see posts is no text of the filter. -/
theorem storable_postFilter (h : IsPlain query) {filter : PostFilter}
    (hread : postFilter query = .ok filter) (visibleTo : Option Int) :
    ∀ text ∈ Filter.texts Post { filter with visibleTo }, isStorableText text = true := by
  obtain ⟨found, hfound, rfl⟩ := exists_found hread
  have hlookup := h.lookup hfound
  exact forall_mem_presentTexts.mpr (by simp [hlookup])

end Query

end Fostering
