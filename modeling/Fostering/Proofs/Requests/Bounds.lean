import Fostering.Proofs.Database.Contents
import Fostering.Proofs.Requests.Replies
import Fostering.Proofs.Requests.Writes

/-!
# Bounds on what is stored

Every request for a new record bounds the lengths of its texts and the size of its numbers. A request to
change a record bounds the columns that always hold a value, too. But of the columns that may be empty
it bounds none: it *oversteps* (`Endpoint.Oversteps`) if it sets such a column to a text that a
request for a new record may not have. For the prices the database has a check of its own.

So there are two sets of rules, and they differ in these columns only: what the requests for new
records declare (`RowRules.declared`), and what is enforced in any case (`RowRules.enforced`).

* `Database.bounds_after`: what is enforced holds after every run from the empty database; and what is
  declared holds all the way through a run exactly if no request that oversteps succeeds.
-/

namespace Fostering

/-! ## Rules of requests -/

namespace Rule

variable {α : Type} [LE α] [DecidableLE α] {least most value : α}

/-- What is bounded above only is within the bounds up to the most. -/
theorem within_upTo : within none (some most) value = true ↔ value ≤ most := by
  simp [within]

/-- What is bounded below only is within the bounds from the least on. -/
theorem within_from : within (some least) none value = true ↔ least ≤ value := by
  simp [within]

/-- What is bounded on both sides is within the bounds between them. -/
theorem within_between :
    within (some least) (some most) value = true ↔ least ≤ value ∧ value ≤ most := by
  simp [within]

end Rule

/-- A text, if there is one, has this many characters at most. -/
def AtMost (most : Nat) (text? : Option String) : Prop := ∀ text ∈ text?, text.length ≤ most

/-- A number, if there is one, is not below zero. -/
def NotNegative (n? : Option Int) : Prop := ∀ n ∈ n?, 0 ≤ n

namespace Violation

variable {field : String}

/-- A text violates no rule on its length if its length is within the bounds. -/
theorem ofLength_eq_nil {least most : Option Nat} {value : String} :
    ofLength field least most value = [] ↔ Rule.within least most value.length = true := by
  simp [ofLength]

/-- A number violates no rule on its range if it is within the bounds. -/
theorem ofRange_eq_nil {least most : Option Int} {value : Int} :
    ofRange field least most value = [] ↔ Rule.within least most value = true := by
  simp [ofRange]

/-- What is absent violates no rule. -/
theorem ofOption_eq_nil {α : Type} {check : α → List Violation} {value? : Option α} :
    ofOption check value? = [] ↔ ∀ value ∈ value?, check value = [] := by
  cases value? with
  | none => simp [ofOption]
  | some value => simp [ofOption]

end Violation

/-- A request that is taken from a body keeps its rules. -/
theorem violations_of_receive {κ : Type} [Request κ] {body : Bytes} {request : κ}
    (h : receive κ body = .ok request) : Request.violations request = [] := by
  unfold receive at h
  by_cases hlong : maxBody < body.length
  · rw [if_pos hlong] at h
    cases h
  · rw [if_neg hlong] at h
    rcases hread : Request.read κ body with fault | request'
    · rw [hread] at h
      cases h
    · rw [hread] at h
      rcases hvalid : validate (Request.violations request') with cause | ⟨⟩
      · simp only [hvalid] at h
        cases h
      · simp only [hvalid] at h
        cases h
        exact validate_eq_ok_iff.mp hvalid

/-- A request that a handler gets was received from the body. -/
theorem Exchange.receive_of_body {κ : Type} [Request κ] {x : Exchange} {request : κ}
    (h : x.body κ = .ok request) : receive κ x.incoming.body = .ok request := by
  unfold body at h
  rcases hreceive : receive κ x.incoming.body with f | request'
  · rw [hreceive] at h
    cases h
  · rw [hreceive] at h
    cases h
    rfl

/-- A handler gets the request that was received from the body. -/
theorem Exchange.body_of_receive {κ : Type} [Request κ] {x : Exchange} {request : κ}
    (h : receive κ x.incoming.body = .ok request) : x.body κ = .ok request := by
  unfold body
  rw [h]
  rfl

/-! ## Bounds

Every bound on a column that may be empty stands under a proviso. -/

section

variable (P : Prop)

/-- The bounds of accounts. -/
structure User.InBounds (u : User) : Prop where
  username : 3 ≤ u.username.length ∧ u.username.length ≤ 32
  firstName : u.firstName.length ≤ 64
  lastName : u.lastName.length ≤ 64
  city : P → AtMost 64 u.city
  phone : P → AtMost 32 u.phone
  about : P → AtMost 2000 u.about

/-- The bounds of keepers. -/
structure Keeper.InBounds (k : Keeper) : Prop where
  description : P → AtMost 4000 k.description
  animalTypes : P → AtMost 255 k.animalTypes
  city : P → AtMost 64 k.city
  price : NotNegative k.price
  boardingCapacity : 0 ≤ k.boardingCapacity ∧ k.boardingCapacity ≤ 50

/-- The bounds of seekers. -/
structure Seeker.InBounds (s : Seeker) : Prop where
  description : P → AtMost 4000 s.description
  animalType : P → AtMost 64 s.animalType
  city : P → AtMost 64 s.city

/-- The bounds of vets. -/
structure Vet.InBounds (v : Vet) : Prop where
  clinicName : 1 ≤ v.clinicName.length ∧ v.clinicName.length ≤ 200
  specialization : P → AtMost 200 v.specialization
  city : P → AtMost 64 v.city
  experienceYears : 0 ≤ v.experienceYears ∧ v.experienceYears ≤ 80
  price : NotNegative v.price

/-- The bounds of posts. -/
structure Post.InBounds (p : Post) : Prop where
  title : 1 ≤ p.title.length ∧ p.title.length ≤ 200
  body : 1 ≤ p.body.length ∧ p.body.length ≤ 10000
  animalType : P → AtMost 64 p.animalType
  city : P → AtMost 64 p.city

/-- The bounds of reviews. -/
structure Review.InBounds (r : Review) : Prop where
  comment : P → AtMost 2000 r.comment

/-- The bounds of messages. -/
structure Message.InBounds (m : Message) : Prop where
  content : 1 ≤ m.content.length ∧ m.content.length ≤ 4000

/-- All bounds, those on columns that may be empty under a proviso. -/
def RowRules.boundsUnder : RowRules where
  user := ⟨User.InBounds P, fun _ _ h =>
    ⟨h.username, h.firstName, h.lastName, h.city, h.phone, h.about⟩⟩
  keeper := ⟨Keeper.InBounds P, fun _ _ h =>
    ⟨h.description, h.animalTypes, h.city, h.price, h.boardingCapacity⟩⟩
  seeker := ⟨Seeker.InBounds P, fun _ _ h => ⟨h.description, h.animalType, h.city⟩⟩
  vet := ⟨Vet.InBounds P, fun _ _ h =>
    ⟨h.clinicName, h.specialization, h.city, h.experienceYears, h.price⟩⟩
  post := ⟨Post.InBounds P, fun _ _ h => ⟨h.title, h.body, h.animalType, h.city⟩⟩
  review := ⟨Review.InBounds P, fun _ _ h => ⟨h.comment⟩⟩
  message := ⟨Message.InBounds, fun _ _ h => ⟨h.content⟩⟩
  rated _ _ h := ⟨h.description, h.animalTypes, h.city, h.price, h.boardingCapacity⟩
  moderated _ _ _ h := ⟨h.title, h.body, h.animalType, h.city⟩

end

/-- What requests for new records declare. -/
abbrev RowRules.declared : RowRules := .boundsUnder True

/-- What is enforced in any case. -/
abbrev RowRules.enforced : RowRules := .boundsUnder False

/-! ## Requests for new records -/

section

variable {P : Prop}

/-- What a rule says about a text that need not be there. -/
theorem atMost_of_rule {field : String} {most : Nat} {text? : Option String}
    (h : Violation.ofOption (Violation.ofLength field none (some most)) text? = []) :
    AtMost most text? := by
  intro text htext
  have hrule := Violation.ofOption_eq_nil.mp h text htext
  exact Rule.within_upTo.mp (Violation.ofLength_eq_nil.mp hrule)

/-- What a rule says about a price. -/
theorem notNegative_of_rule {field : String} {n? : Option Int}
    (h : Violation.ofOption (Violation.ofRange field (some 0) none) n? = []) : NotNegative n? := by
  intro n hn
  have hrule := Violation.ofOption_eq_nil.mp h n hn
  exact Rule.within_from.mp (Violation.ofRange_eq_nil.mp hrule)

/-- A text that violates no rule has a length within the bounds. -/
theorem length_of_rule {field : String} {least most : Nat} {text : String}
    (h : Violation.ofLength field (some least) (some most) text = []) :
    least ≤ text.length ∧ text.length ≤ most :=
  Rule.within_between.mp (Violation.ofLength_eq_nil.mp h)

/-- A number that violates no rule is within the bounds. -/
theorem range_of_rule {field : String} {least most value : Int}
    (h : Violation.ofRange field (some least) (some most) value = []) :
    least ≤ value ∧ value ≤ most :=
  Rule.within_between.mp (Violation.ofRange_eq_nil.mp h)

/-- Whoever registers by the rules is within the bounds of accounts. -/
theorem RegisterUser.inBounds {r : RegisterUser} (h : r.violations = []) (hash : String) :
    (r.toUser hash).InBounds P := by
  simp only [violations, List.append_eq_nil_iff] at h
  obtain ⟨⟨⟨⟨⟨⟨⟨username, -⟩, -⟩, firstName⟩, lastName⟩, city⟩, phone⟩, about⟩ := h
  exact
    { username := length_of_rule username
      firstName := Rule.within_upTo.mp (Violation.ofLength_eq_nil.mp firstName)
      lastName := Rule.within_upTo.mp (Violation.ofLength_eq_nil.mp lastName)
      city := fun _ => atMost_of_rule city
      phone := fun _ => atMost_of_rule phone
      about := fun _ => atMost_of_rule about }

/-- A new keeper by the rules is within the bounds of keepers. -/
theorem CreateKeeper.inBounds {r : CreateKeeper} (h : r.violations = []) (userId : Int) :
    (r.toKeeper userId).InBounds P := by
  simp only [violations, List.append_eq_nil_iff] at h
  obtain ⟨⟨⟨⟨description, price⟩, capacity⟩, animalTypes⟩, city⟩ := h
  have hcapacity : 0 ≤ r.boardingCapacity.getD 0 ∧ r.boardingCapacity.getD 0 ≤ 50 := by
    rcases hset : r.boardingCapacity with _ | capacity'
    · exact ⟨Int.le_refl 0, by decide⟩
    · exact range_of_rule (Violation.ofOption_eq_nil.mp capacity capacity' hset)
  exact
    { description := fun _ => atMost_of_rule description
      animalTypes := fun _ => atMost_of_rule animalTypes
      city := fun _ => atMost_of_rule city
      price := notNegative_of_rule price
      boardingCapacity := hcapacity }

/-- A new seeker by the rules is within the bounds of seekers. -/
theorem CreateSeeker.inBounds {r : CreateSeeker} (h : r.violations = []) (userId : Int) :
    (r.toSeeker userId).InBounds P := by
  simp only [violations, List.append_eq_nil_iff] at h
  obtain ⟨⟨description, animalType⟩, city⟩ := h
  exact
    { description := fun _ => atMost_of_rule description
      animalType := fun _ => atMost_of_rule animalType
      city := fun _ => atMost_of_rule city }

/-- A new vet by the rules is within the bounds of vets. -/
theorem CreateVet.inBounds {r : CreateVet} (h : r.violations = []) (userId : Int) :
    (r.toVet userId).InBounds P := by
  simp only [violations, List.append_eq_nil_iff] at h
  obtain ⟨⟨⟨⟨clinicName, specialization⟩, experience⟩, price⟩, city⟩ := h
  exact
    { clinicName := length_of_rule clinicName
      specialization := fun _ => atMost_of_rule specialization
      city := fun _ => atMost_of_rule city
      experienceYears := range_of_rule experience
      price := notNegative_of_rule price }

/-- A new post by the rules is within the bounds of posts. -/
theorem CreatePost.inBounds {r : CreatePost} (h : r.violations = []) (authorId : Int) :
    (r.toPost authorId).InBounds P := by
  simp only [violations, List.append_eq_nil_iff] at h
  obtain ⟨⟨⟨title, body⟩, animalType⟩, city⟩ := h
  exact
    { title := length_of_rule title
      body := length_of_rule body
      animalType := fun _ => atMost_of_rule animalType
      city := fun _ => atMost_of_rule city }

/-- A new review by the rules is within the bounds of reviews. -/
theorem CreateReview.inBounds {r : CreateReview} (h : r.violations = []) (keeperId authorId : Int) :
    (r.toReview keeperId authorId).InBounds P :=
  ⟨fun _ => atMost_of_rule h⟩

/-- A new message by the rules is within the bounds of messages. -/
theorem SendMessage.inBounds {r : SendMessage} (h : r.violations = []) (chatId senderId : Int) :
    (r.toMessage chatId senderId).InBounds :=
  ⟨length_of_rule h⟩

end

/-! ## Requests to change records -/

/-- A change sets a text of more characters. -/
def Change.Exceeds (most : Nat) (change : Change (Option String)) : Prop :=
  ∃ text, change = .set (some text) ∧ most < text.length

namespace Change

variable {most : Nat} {change : Change (Option String)} {stored : Option String}

/-- A change that does not exceed a bound keeps it. -/
theorem atMost_apply (h : AtMost most stored) (hchange : ¬change.Exceeds most) :
    AtMost most (change.apply stored) := by
  intro text htext
  cases change with
  | keep => exact h text htext
  | set value =>
      have hset : value = some text := htext
      exact Nat.le_of_not_lt fun hlong => hchange ⟨text, by rw [hset], hlong⟩

/-- A change that exceeds a bound breaks it. -/
theorem not_atMost_apply (hchange : change.Exceeds most) : ¬AtMost most (change.apply stored) := by
  obtain ⟨text, rfl, hlong⟩ := hchange
  intro h
  exact absurd (h text rfl) (Nat.not_le_of_lt hlong)

/-- A change of a column that always holds a value keeps what holds of both values. -/
theorem of_apply {α : Type} {Q : α → Prop} {change : Change α} {stored : α} (h : Q stored)
    (hset : ∀ value ∈ change.value?, Q value) : Q (change.apply stored) := by
  cases change with
  | keep => exact h
  | set value => exact hset value rfl

end Change

section

variable {P : Prop}

/-- A change of an account oversteps. -/
def UpdateUser.Oversteps (r : UpdateUser) : Prop :=
  r.city.Exceeds 64 ∨ r.phone.Exceeds 32 ∨ r.about.Exceeds 2000

/-- A change by the rules keeps an account in bounds if it oversteps no bound of a column that may be empty.
-/
theorem UpdateUser.inBounds {r : UpdateUser} {old : User} (h : r.violations = [])
    (hclipped : P → ¬r.Oversteps) (hold : old.InBounds P) : (r.apply old).InBounds P := by
  simp only [violations, List.append_eq_nil_iff, Violation.ofOption_eq_nil] at h
  obtain ⟨⟨⟨username, -⟩, firstName⟩, lastName⟩ := h
  have hupTo {field : String} {change : Change String} {stored : String}
      (hrule : ∀ s ∈ change.value?, Violation.ofLength field none (some 64) s = [])
      (hstored : stored.length ≤ 64) : (change.apply stored).length ≤ 64 :=
    Change.of_apply (Q := fun s => s.length ≤ 64) hstored fun s hs =>
      Rule.within_upTo.mp (Violation.ofLength_eq_nil.mp (hrule s hs))
  exact
    { username := Change.of_apply (Q := fun s => 3 ≤ s.length ∧ s.length ≤ 32) hold.username
        fun s hs => length_of_rule (username s hs)
      firstName := hupTo firstName hold.firstName
      lastName := hupTo lastName hold.lastName
      city := fun hP => Change.atMost_apply (hold.city hP) fun hc => hclipped hP (.inl hc)
      phone := fun hP => Change.atMost_apply (hold.phone hP) fun hc => hclipped hP (.inr (.inl hc))
      about := fun hP => Change.atMost_apply (hold.about hP) fun hc => hclipped hP (.inr (.inr hc)) }

/-- A change of a keeper oversteps. -/
def UpdateKeeper.Oversteps (r : UpdateKeeper) : Prop :=
  r.description.Exceeds 4000 ∨ r.animalTypes.Exceeds 255 ∨ r.city.Exceeds 64

/-- A change by the rules keeps a keeper in bounds under the same proviso, if the price is not below zero. -/
theorem UpdateKeeper.inBounds {r : UpdateKeeper} {old : Keeper} (h : r.violations = [])
    (hclipped : P → ¬r.Oversteps) (hold : old.InBounds P) (hprice : NotNegative (r.apply old).price) :
    (r.apply old).InBounds P := by
  have hcapacity := Violation.ofOption_eq_nil.mp h
  exact
    { description := fun hP =>
        Change.atMost_apply (hold.description hP) fun hc => hclipped hP (.inl hc)
      animalTypes := fun hP =>
        Change.atMost_apply (hold.animalTypes hP) fun hc => hclipped hP (.inr (.inl hc))
      city := fun hP => Change.atMost_apply (hold.city hP) fun hc => hclipped hP (.inr (.inr hc))
      price := hprice
      boardingCapacity := Change.of_apply (Q := fun n => 0 ≤ n ∧ n ≤ 50) hold.boardingCapacity
        fun n hn => range_of_rule (hcapacity n hn) }

/-- A change of a seeker oversteps. -/
def UpdateSeeker.Oversteps (r : UpdateSeeker) : Prop :=
  r.description.Exceeds 4000 ∨ r.animalType.Exceeds 64 ∨ r.city.Exceeds 64

/-- There are no rules for changes of seekers, so all depends on the proviso. -/
theorem UpdateSeeker.inBounds {r : UpdateSeeker} {old : Seeker} (hclipped : P → ¬r.Oversteps)
    (hold : old.InBounds P) : (r.apply old).InBounds P where
  description hP := Change.atMost_apply (hold.description hP) fun hc => hclipped hP (.inl hc)
  animalType hP := Change.atMost_apply (hold.animalType hP) fun hc => hclipped hP (.inr (.inl hc))
  city hP := Change.atMost_apply (hold.city hP) fun hc => hclipped hP (.inr (.inr hc))

/-- A change of a vet oversteps. -/
def UpdateVet.Oversteps (r : UpdateVet) : Prop :=
  r.specialization.Exceeds 200 ∨ r.city.Exceeds 64

/-- A change by the rules keeps a vet in bounds under the same proviso, if the price is not below zero. -/
theorem UpdateVet.inBounds {r : UpdateVet} {old : Vet} (h : r.violations = [])
    (hclipped : P → ¬r.Oversteps) (hold : old.InBounds P) (hprice : NotNegative (r.apply old).price) :
    (r.apply old).InBounds P := by
  simp only [violations, List.append_eq_nil_iff, Violation.ofOption_eq_nil] at h
  obtain ⟨clinicName, experience⟩ := h
  exact
    { clinicName := Change.of_apply (Q := fun s => 1 ≤ s.length ∧ s.length ≤ 200) hold.clinicName
        fun s hs => length_of_rule (clinicName s hs)
      specialization := fun hP =>
        Change.atMost_apply (hold.specialization hP) fun hc => hclipped hP (.inl hc)
      city := fun hP => Change.atMost_apply (hold.city hP) fun hc => hclipped hP (.inr hc)
      experienceYears := Change.of_apply (Q := fun n => 0 ≤ n ∧ n ≤ 80) hold.experienceYears
        fun n hn => range_of_rule (experience n hn)
      price := hprice }

/-- A change of a post oversteps. -/
def UpdatePost.Oversteps (r : UpdatePost) : Prop := r.animalType.Exceeds 64 ∨ r.city.Exceeds 64

/-- A change by the rules keeps a post in bounds under the same proviso. -/
theorem UpdatePost.inBounds {r : UpdatePost} {old : Post} (h : r.violations = [])
    (hclipped : P → ¬r.Oversteps) (hold : old.InBounds P) : (r.apply old).InBounds P := by
  simp only [violations, List.append_eq_nil_iff, Violation.ofOption_eq_nil] at h
  obtain ⟨title, body⟩ := h
  exact
    { title := Change.of_apply (Q := fun s => 1 ≤ s.length ∧ s.length ≤ 200) hold.title
        fun s hs => length_of_rule (title s hs)
      body := Change.of_apply (Q := fun s => 1 ≤ s.length ∧ s.length ≤ 10000) hold.body
        fun s hs => length_of_rule (body s hs)
      animalType := fun hP => Change.atMost_apply (hold.animalType hP) fun hc => hclipped hP (.inl hc)
      city := fun hP => Change.atMost_apply (hold.city hP) fun hc => hclipped hP (.inr hc) }

/-- A change of a review oversteps. -/
def UpdateReview.Oversteps (r : UpdateReview) : Prop := r.comment.Exceeds 2000

/-- There are no rules for changes of reviews but on the grade, which is no matter of bounds. -/
theorem UpdateReview.inBounds {r : UpdateReview} {old : Review} (hclipped : P → ¬r.Oversteps)
    (hold : old.InBounds P) : (r.apply old).InBounds P where
  comment hP := Change.atMost_apply (hold.comment hP) (hclipped hP)

/-- A change by the rules keeps a message in bounds; none of its columns may be empty. -/
theorem UpdateMessage.inBounds {r : UpdateMessage} {old : Message} (h : r.violations = [])
    (hold : old.InBounds) : (r.apply old).InBounds := by
  have hcontent := Violation.ofOption_eq_nil.mp h
  exact ⟨Change.of_apply (Q := fun s => 1 ≤ s.length ∧ s.length ≤ 4000) hold.content
    fun s hs => length_of_rule (hcontent s hs)⟩

end

/-- What a body asks an endpoint to do oversteps: it sets a column that may be empty to a text that no
request for a new record may have there. -/
def Endpoint.Oversteps (body : Bytes) : Endpoint → Prop
  | updateUser => ∃ request : UpdateUser, receive UpdateUser body = .ok request ∧ request.Oversteps
  | updateKeeper =>
    ∃ request : UpdateKeeper, receive UpdateKeeper body = .ok request ∧ request.Oversteps
  | updateSeeker =>
    ∃ request : UpdateSeeker, receive UpdateSeeker body = .ok request ∧ request.Oversteps
  | updateVet => ∃ request : UpdateVet, receive UpdateVet body = .ok request ∧ request.Oversteps
  | updatePost => ∃ request : UpdatePost, receive UpdatePost body = .ok request ∧ request.Oversteps
  | updateReview =>
    ∃ request : UpdateReview, receive UpdateReview body = .ok request ∧ request.Oversteps
  | _ => False

/-- A request oversteps. -/
def Incoming.Oversteps (incoming : Incoming) : Prop :=
  ∃ endpoint id?, Endpoint.find incoming = .endpoint endpoint id? ∧ endpoint.Oversteps incoming.body

/-! ## Checks -/

/-- The check of a price lets pass what is not below zero, and no price. -/
theorem isPrice_iff {price : Option Int} : Schema.isPrice price = true ↔ NotNegative price := by
  cases price with
  | none => simp [Schema.isPrice, NotNegative]
  | some n => simp [Schema.isPrice, NotNegative]

/-- The checks of keepers are on the price and the capacity. -/
theorem Keeper.holds_iff {k : Keeper} :
    Schema.holds k = true ↔ NotNegative k.price ∧ 0 ≤ k.boardingCapacity := by
  change (Schema.isPrice k.price && decide (0 ≤ k.boardingCapacity)) = true ↔ _
  rw [Bool.and_eq_true, isPrice_iff, decide_eq_true_eq]

/-- The checks of vets are on the experience and the price. -/
theorem Vet.holds_iff {v : Vet} :
    Schema.holds v = true ↔ 0 ≤ v.experienceYears ∧ NotNegative v.price := by
  change (decide (0 ≤ v.experienceYears) && Schema.isPrice v.price) = true ↔ _
  rw [Bool.and_eq_true, isPrice_iff, decide_eq_true_eq]

/-! ## Calls -/

namespace Exchange

variable {x : Exchange} {db : Database} {P : Prop}

/-- What a request writes respects the bounds, unless it oversteps. -/
theorem Writes.respects {endpoint : Endpoint} {call : Store.Call} (h : x.Writes db endpoint call)
    (hclipped : P → ¬endpoint.Oversteps x.incoming.body) (hdb : db.Conforms (.boundsUnder P)) :
    call.Respects (.boundsUnder P) := by
  have hvalid {κ : Type} [Request κ] {request : κ} (hbody : x.body κ = .ok request) :
      receive κ x.incoming.body = .ok request ∧ Request.violations request = [] :=
    ⟨receive_of_body hbody, violations_of_receive (receive_of_body hbody)⟩
  -- a row that is new has its bounds from the rules alone; one that is changed also from the row
  -- before it, where the request leaves a column out
  cases h with
  | register request hbody =>
      intro id _ _
      have hbounds := RegisterUser.inBounds (P := P) (hvalid hbody).2 ""
      exact ⟨hbounds.username, hbounds.firstName, hbounds.lastName, hbounds.city, hbounds.phone,
        hbounds.about⟩
  | updateUser caller request old _ _ hbody hmem =>
      intro stored now _ _ _
      obtain ⟨hreceive, hrules⟩ := hvalid hbody
      have hbounds := UpdateUser.inBounds hrules
        (fun hP hover => hclipped hP ⟨request, hreceive, hover⟩) (hdb .users old hmem)
      exact ⟨hbounds.username, hbounds.firstName, hbounds.lastName, hbounds.city, hbounds.phone,
        hbounds.about⟩
  | deleteUser => trivial
  | createKeeper row hrow =>
      cases hrow with
      | intro caller request _ hbody =>
          intro id _ _
          have hbounds := CreateKeeper.inBounds (P := P) (hvalid hbody).2 caller.userId
          exact ⟨hbounds.description, hbounds.animalTypes, hbounds.city, hbounds.price,
            hbounds.boardingCapacity⟩
  | updateKeeper row hrow =>
      cases hrow with
      | intro caller request old _ _ hbody hmem =>
          intro stored now _ _ hholds
          obtain ⟨hreceive, hrules⟩ := hvalid hbody
          have hbounds := UpdateKeeper.inBounds hrules
            (fun hP hover => hclipped hP ⟨request, hreceive, hover⟩) (hdb .keepers old hmem)
            (Keeper.holds_iff.mp hholds).1
          exact ⟨hbounds.description, hbounds.animalTypes, hbounds.city, hbounds.price,
            hbounds.boardingCapacity⟩
  | deleteKeeper => trivial
  | createSeeker row hrow =>
      cases hrow with
      | intro caller request _ hbody =>
          intro id _ _
          have hbounds := CreateSeeker.inBounds (P := P) (hvalid hbody).2 caller.userId
          exact ⟨hbounds.description, hbounds.animalType, hbounds.city⟩
  | updateSeeker row hrow =>
      cases hrow with
      | intro caller request old _ _ hbody hmem =>
          intro stored now _ _ _
          have hreceive := receive_of_body hbody
          have hbounds := UpdateSeeker.inBounds
            (fun hP hover => hclipped hP ⟨request, hreceive, hover⟩) (hdb .seekers old hmem)
          exact ⟨hbounds.description, hbounds.animalType, hbounds.city⟩
  | deleteSeeker => trivial
  | createVet row hrow =>
      cases hrow with
      | intro caller request _ hbody =>
          intro id _ _
          have hbounds := CreateVet.inBounds (P := P) (hvalid hbody).2 caller.userId
          exact ⟨hbounds.clinicName, hbounds.specialization, hbounds.city, hbounds.experienceYears,
            hbounds.price⟩
  | updateVet row hrow =>
      cases hrow with
      | intro caller request old _ _ hbody hmem =>
          intro stored now _ _ hholds
          obtain ⟨hreceive, hrules⟩ := hvalid hbody
          have hbounds := UpdateVet.inBounds hrules
            (fun hP hover => hclipped hP ⟨request, hreceive, hover⟩) (hdb .vets old hmem)
            (Vet.holds_iff.mp hholds).2
          exact ⟨hbounds.clinicName, hbounds.specialization, hbounds.city, hbounds.experienceYears,
            hbounds.price⟩
  | deleteVet => trivial
  | onBoard endpoint call hcall =>
      cases hcall with
      | create caller request status _ hbody =>
          intro id _ _
          have hbounds := CreatePost.inBounds (P := P) (hvalid hbody).2 caller.userId
          exact ⟨hbounds.title, hbounds.body, hbounds.animalType, hbounds.city⟩
      | update caller request old _ _ hbody hmem =>
          intro stored now _ _ _
          obtain ⟨hreceive, hrules⟩ := hvalid hbody
          have hbounds := UpdatePost.inBounds hrules
            (fun hP hover => hclipped hP ⟨request, hreceive, hover⟩) (hdb .posts old hmem)
          exact ⟨hbounds.title, hbounds.body, hbounds.animalType, hbounds.city⟩
      | delete | file | approve | block => trivial
  | createReview caller request keeper _ _ hbody =>
      intro id _ _
      have hbounds := CreateReview.inBounds (P := P) (hvalid hbody).2 keeper.entry.id caller.userId
      exact ⟨hbounds.comment⟩
  | updateReview caller request old _ _ hbody _ hmem =>
      intro stored now _ _ _
      have hreceive := receive_of_body hbody
      have hbounds := UpdateReview.inBounds
        (fun hP hover => hclipped hP ⟨request, hreceive, hover⟩) (hdb .reviews old hmem)
      exact ⟨hbounds.comment⟩
  | deleteReview => trivial
  | addFavourite | removeFavourite | createChat | leaveChat => trivial
  | sendMessage caller request id _ _ hbody =>
      intro id' _ _
      have hbounds := SendMessage.inBounds (hvalid hbody).2 id caller.userId
      exact ⟨hbounds.content⟩
  | updateMessage caller request old _ _ hbody hmem =>
      intro stored now _ _ _
      have hbounds := UpdateMessage.inBounds (hvalid hbody).2 (hdb .messages old hmem)
      exact ⟨hbounds.content⟩
  | deleteMessage => trivial

end Exchange

/-! ## Requests that overstep -/

namespace Database

variable {now : Instant} {db : Database}

/-- An operation is refused, or it succeeds and a declared bound is broken after it. -/
def BreaksBounds {α : Type} (op : Op Database α) (now : Instant) (db : Database) : Prop :=
  IsRefused op now db ∨
    (∃ result, (op.exec now db).1 = .ok result) ∧ ¬(op.exec now db).2.Conforms .declared

/-- A change to a row that breaks a declared rule is refused, or it breaks the bounds. -/
theorem breaksBounds_update {ρ : Type} [Editable ρ] {Q : RowRule ρ} (given : ρ)
    (hrule : ∀ db' : Database, db'.Conforms .declared → EveryRow Q db'.tables)
    (hid : ∀ old, Table.id (changed given old now) = Table.id old)
    (hbroken : ∀ old, ¬Q.Holds (changed given old now)) : BreaksBounds (update given) now db := by
  rcases update_cases given now db with hrefused | ⟨old, hmem, -, -, -, -, heq⟩
  · exact .inl hrefused
  · refine .inr ⟨⟨changed given old now, by rw [heq]⟩, fun hdb => hbroken old (hrule _ hdb _ ?_)⟩
    rw [heq, rows_putRow]
    exact List.mem_map.mpr ⟨old, hmem, if_pos (hid old).symm⟩

/-- A change of a review breaks bounds if no review may look as it does. -/
theorem breaksBounds_updateReview (given : Review)
    (hbroken : ∀ old, ¬RowRules.declared.review.Holds (changed given old now)) :
    BreaksBounds (updateReview given) now db := by
  rcases updateReview_cases now db given with hrefused | ⟨old, hmem, -, -, -, -, db', heq, hbook⟩
  · exact .inl hrefused
  · refine .inr ⟨⟨changed given old now, by rw [heq]⟩, fun hdb => hbroken old (hdb .reviews _ ?_)⟩
    have hreviews : db'.tables.reviews = (db.gradebook.putReview (changed given old now)).reviews :=
      congrArg Gradebook.reviews hbook
    rw [heq]
    change changed given old now ∈ db'.tables.reviews
    rw [hreviews]
    exact List.mem_map.mpr ⟨old, hmem, if_pos rfl⟩

/-- A call for a request that oversteps is refused, or a declared bound is broken after it. -/
theorem overstepping_breaks {x : Exchange} {endpoint : Endpoint} {call : Store.Call}
    (hcall : x.Writes db endpoint call) (hover : endpoint.Oversteps x.incoming.body) :
    BreaksBounds (call.perform : Op Database call.Result) now db := by
  have hsame {κ : Type} [Request κ] {request : κ} (hbody : x.body κ = .ok request) {request' : κ}
      (hreceive : receive κ x.incoming.body = .ok request') : request' = request := by
    rw [Exchange.receive_of_body hbody] at hreceive
    exact (Except.ok.inj hreceive).symm
  have hexceeds {most : Nat} {change : Change (Option String)} {stored : Option String}
      (h : change.Exceeds most) (hbound : True → AtMost most (change.apply stored)) : False :=
    Change.not_atMost_apply h (hbound trivial)
  -- only the updates with columns that may be absent can overstep; each contradicts the bound of
  -- that column
  cases hcall with
  | updateUser caller request old _ _ hbody =>
      obtain ⟨request', hreceive, hover⟩ := hover
      obtain rfl := hsame hbody hreceive
      refine breaksBounds_update (Q := RowRules.declared.user) _ (fun _ hdb => hdb .users)
        (fun _ => rfl) fun _ hbounds => ?_
      rcases hover with h | h | h
      · exact hexceeds h hbounds.city
      · exact hexceeds h hbounds.phone
      · exact hexceeds h hbounds.about
  | updateKeeper row hrow =>
      obtain ⟨request', hreceive, hover⟩ := hover
      cases hrow with
      | intro caller request old _ _ hbody =>
          obtain rfl := hsame hbody hreceive
          refine breaksBounds_update (Q := RowRules.declared.keeper) _ (fun _ hdb => hdb .keepers)
            (fun _ => rfl) fun _ hbounds => ?_
          rcases hover with h | h | h
          · exact hexceeds h hbounds.description
          · exact hexceeds h hbounds.animalTypes
          · exact hexceeds h hbounds.city
  | updateSeeker row hrow =>
      obtain ⟨request', hreceive, hover⟩ := hover
      cases hrow with
      | intro caller request old _ _ hbody =>
          obtain rfl := hsame hbody hreceive
          refine breaksBounds_update (Q := RowRules.declared.seeker) _ (fun _ hdb => hdb .seekers)
            (fun _ => rfl) fun _ hbounds => ?_
          rcases hover with h | h | h
          · exact hexceeds h hbounds.description
          · exact hexceeds h hbounds.animalType
          · exact hexceeds h hbounds.city
  | updateVet row hrow =>
      obtain ⟨request', hreceive, hover⟩ := hover
      cases hrow with
      | intro caller request old _ _ hbody =>
          obtain rfl := hsame hbody hreceive
          refine breaksBounds_update (Q := RowRules.declared.vet) _ (fun _ hdb => hdb .vets)
            (fun _ => rfl) fun _ hbounds => ?_
          rcases hover with h | h
          · exact hexceeds h hbounds.specialization
          · exact hexceeds h hbounds.city
  | onBoard endpoint call hcall =>
      cases hcall with
      | update caller request old _ _ hbody =>
          obtain ⟨request', hreceive, hover⟩ := hover
          obtain rfl := hsame hbody hreceive
          refine breaksBounds_update (Q := RowRules.declared.post) _ (fun _ hdb => hdb .posts)
            (fun _ => rfl) fun _ hbounds => ?_
          rcases hover with h | h
          · exact hexceeds h hbounds.animalType
          · exact hexceeds h hbounds.city
      | _ => exact hover.elim
  | updateReview caller request old _ _ hbody =>
      obtain ⟨request', hreceive, hover⟩ := hover
      obtain rfl := hsame hbody hreceive
      exact breaksBounds_updateReview _ fun _ hbounds => hexceeds hover hbounds.comment
  | _ => exact hover.elim

/-! ## Runs -/

variable {config : Config} {a : Arrival} {P : Prop}

/-- There is nothing in an empty database that could break a rule. -/
theorem conforms_empty (R : RowRules) : Conforms R {} := by
  intro name
  cases name <;> first | trivial | exact fun _ h => absurd h List.not_mem_nil

/-- A request keeps the bounds under a proviso, unless it oversteps and succeeds. -/
theorem bounds_serve (hover : P → a.incoming.Oversteps → 400 ≤ (db.reply config a).status)
    (h : db.Conforms (.boundsUnder P)) : (db.serve config a).Conforms (.boundsUnder P) := by
  rcases serve_writes config db a with hframe | ⟨endpoint, id?, call, hfind, hcall, htells, heq⟩
  · refine h.of_onlyChanges hframe fun name hname => ?_
    obtain rfl := List.mem_singleton.mp hname
    trivial
  rw [heq]
  by_cases hclipped : P → ¬endpoint.Oversteps a.incoming.body
  · exact conforms_perform call (hcall.respects hclipped h) h
  · obtain ⟨hP, hlong⟩ := Classical.not_imp.mp hclipped
    rcases overstepping_breaks hcall (not_not.mp hlong) with hrefused | ⟨⟨result, hok⟩, -⟩
    · intro name
      rw [hrefused.tables_eq]
      exact h name
    · have hstatus := hover hP ⟨endpoint, id?, hfind, not_not.mp hlong⟩
      rw [hok] at htells
      have hsuccess : (db.reply config a).status ∈ [200, 201, 204] := htells
      simp only [List.mem_cons, List.not_mem_nil, or_false] at hsuccess
      omega

/-- A request that oversteps and succeeds breaks a declared bound. -/
theorem overstepping_serve (hover : a.incoming.Oversteps) (hstatus : (db.reply config a).status < 400) :
    ¬(db.serve config a).Conforms .declared := by
  obtain ⟨endpoint, id?, hfind, hlong⟩ := hover
  have hwrites : endpoint.writes ≠ [] ∧ endpoint.writes ≠ [.sessions] := by
    cases endpoint <;> first | exact hlong.elim | decide
  rcases serve_of_writing config db a hfind hwrites.1 hwrites.2 with
    ⟨hfault, -⟩ | ⟨call, hcall, htells, heq⟩
  · exact absurd hfault.1 (Nat.not_le_of_lt hstatus)
  · rcases overstepping_breaks hcall hlong with ⟨cause, db', hrefused, -⟩ | ⟨-, hbroken⟩
    · rw [hrefused] at htells
      have hcause : (db.reply config a).status = cause.status := htells
      have hleast := cause.le_status
      omega
    · rw [heq]
      exact hbroken

/-- **What is enforced holds after every run. What is declared holds all the way through a run exactly
if no request that oversteps succeeds.** -/
theorem bounds_after (config : Config) (run : List Arrival) :
    (serveAll config {} run).Conforms .enforced ∧
      ((∀ served, served <+: run → (serveAll config {} served).Conforms .declared) ↔
        ∀ served a, served ++ [a] <+: run → a.incoming.Oversteps →
          400 ≤ ((serveAll config {} served).reply config a).status) := by
  refine ⟨?_, ?_, ?_⟩
  · refine serveAll_induction (fun a _ db h => bounds_serve ?_ h) (conforms_empty _)
    exact fun hfalse => hfalse.elim
  · intro h served a hprefix hover
    refine Nat.le_of_not_lt fun hstatus => overstepping_serve hover hstatus ?_
    have hafter := h (served ++ [a]) hprefix
    rw [serveAll_append] at hafter
    exact hafter
  · intro h served hprefix
    induction served using List.reverseRecOn with
    | nil => exact conforms_empty _
    | append_singleton served a ih =>
        have hbefore := ih ((List.prefix_append served [a]).trans hprefix)
        rw [serveAll_append]
        exact bounds_serve (fun _ hover => h served a hprefix hover) hbefore

end Database

end Fostering
