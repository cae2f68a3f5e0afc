import Fostering.Proofs.Json.Meaning

/-!
# Objects, and the rows that are read of them

The members of an object are the names in it, each with its value as it is written (`IsObject`). A row
that is read of an object holds for each field what the member of its name means, or what its absence
means (`Row.Holds`): members with other names are passed over, whatever they are, and no field is named
twice.

* `Field.read_takes`: what is read for a field, which may also be `null`.
* `readMembers_gains`: what the members of an object add to a row.
* `Shape.read_object`: the row that is read of a whole object.
-/

namespace Fostering.Json

/-! ## Fields -/

/-- The kinds of texts, flags and whole numbers. -/
def Kind.isScalar : Kind → Bool
  | .text | .flag | .whole _ => true
  | .wholes _ | .texts | .raw => false

/-- What a field takes from a value. -/
def Field.Takes : (field : Field) → Bytes → field.Value → Prop
  | ⟨_, kind, .required⟩, value, taken => kind.Means value taken
  | ⟨_, kind, .defaulted⟩, value, taken => kind.Means value taken
  | ⟨_, kind, .optional⟩, value, taken =>
    (value = nullText ∧ taken = none) ∨ ∃ a, kind.Means value a ∧ taken = some a
  | ⟨_, kind, .changeable⟩, value, taken =>
    (value = nullText ∧ taken = .keep) ∨ ∃ a, kind.Means value a ∧ taken = .set a
  | ⟨_, kind, .clearable⟩, value, taken =>
    (value = nullText ∧ taken = .set none) ∨ ∃ a, kind.Means value a ∧ taken = .set (some a)

section

variable {blanks value rest rest' : Bytes}

/-- What is read as a text, a flag or a whole number is what the value means. -/
theorem Kind.read_means {kind : Kind} (hkind : kind.isScalar = true) {v : kind.Value}
    (hblanks : Blanks blanks) (hvalue : Text .value value) (hrest : Ends rest)
    (h : kind.read (blanks ++ (value ++ rest)) = .ok (v, rest')) : kind.Means value v ∧ rest' = rest := by
  cases kind with
  | text =>
      obtain ⟨hmeans, rfl⟩ := readText_means hblanks hvalue h
      exact ⟨.text value v hmeans, rfl⟩
  | flag => exact readFlag_means hblanks hvalue h
  | whole width => exact readWhole_means hblanks hvalue hrest h
  | wholes | texts | raw => cases hkind

/-- What is read of a value that may be `null`. -/
theorem readOption_means {kind : Kind} (hkind : kind.isScalar = true) {v? : Option kind.Value}
    (hblanks : Blanks blanks) (hvalue : Text .value value) (hrest : Ends rest)
    (h : readOption kind.read (blanks ++ (value ++ rest)) = .ok (v?, rest')) :
    ((value = nullText ∧ v? = none) ∨ ∃ v, kind.Means value v ∧ v? = some v) ∧ rest' = rest := by
  unfold readOption at h
  rw [skipBlank_value hblanks hvalue] at h
  split at h
  · rename_i tail heq
    obtain ⟨b, tail', rfl, -⟩ := hvalue.exists_head
    obtain ⟨rfl, rfl⟩ := List.cons.inj heq
    rcases hvalue.cons_cases with ⟨hb, -⟩ | ⟨hb, -⟩ | ⟨hb, -⟩ | ⟨-, rfl⟩ | ⟨hb, -⟩ | ⟨hb, -⟩ | hb | hb
    case inr.inr.inr.inl =>
      cases h
      exact ⟨.inl ⟨rfl, rfl⟩, rfl⟩
    all_goals exact absurd hb (by decide)
  · obtain ⟨⟨v, tail⟩, hread, hpair⟩ := exists_of_bind_eq_ok h
    cases hpair
    obtain ⟨hmeans, rfl⟩ := Kind.read_means hkind blanks_nil hvalue hrest hread
    exact ⟨.inr ⟨v, hmeans, rfl⟩, rfl⟩

/-- What is read for a field is what the field takes from the value, and the reader stops where the value
ends. -/
theorem Field.read_takes {field : Field} (hkind : field.kind.isScalar = true) {v : field.Value}
    (hblanks : Blanks blanks) (hvalue : Text .value value) (hrest : Ends rest)
    (h : field.read (blanks ++ (value ++ rest)) = .ok (v, rest')) : field.Takes value v ∧ rest' = rest := by
  obtain ⟨name, kind, presence⟩ := field
  cases presence with
  | required => exact Kind.read_means hkind hblanks hvalue hrest h
  | defaulted => exact Kind.read_means hkind hblanks hvalue hrest h
  | optional => exact readOption_means hkind hblanks hvalue hrest h
  | changeable =>
      obtain ⟨⟨v?, tail⟩, hread, hpair⟩ := exists_of_bind_eq_ok h
      cases hpair
      obtain ⟨⟨hnull, rfl⟩ | ⟨a, hmeans, rfl⟩, rfl⟩ := readOption_means hkind hblanks hvalue hrest hread
      · exact ⟨.inl ⟨hnull, rfl⟩, rfl⟩
      · exact ⟨.inr ⟨a, hmeans, rfl⟩, rfl⟩
  | clearable =>
      obtain ⟨⟨v?, tail⟩, hread, hpair⟩ := exists_of_bind_eq_ok h
      cases hpair
      obtain ⟨⟨hnull, rfl⟩ | ⟨a, hmeans, rfl⟩, rfl⟩ := readOption_means hkind hblanks hvalue hrest hread
      · exact ⟨.inl ⟨hnull, rfl⟩, rfl⟩
      · exact ⟨.inr ⟨a, hmeans, rfl⟩, rfl⟩

end

/-! ## Objects -/

/-- The name of a member and its value, as it is written. -/
abbrev Member := String × Bytes

/-- The text of a member. -/
inductive Member.Text : Member → Bytes → Prop where
  | intro (name : String) (before key between after value : Bytes) (hbefore : Blanks before)
      (hkey : Spells key (Utf8.encode name)) (hbetween : Blanks between) (hafter : Blanks after)
      (hvalue : Json.Text .value value) :
      Text (name, value) (before ++ 0x22 :: (key ++ 0x22 :: (between ++ 0x3A :: (after ++ value))))

/-- What stands in an object, up to its end and with it: at its beginning, or after a member. -/
inductive Members : Bool → List Member → Bytes → Prop where
  | done (first : Bool) (blanks : Bytes) (hblanks : Blanks blanks) : Members first [] (blanks ++ [0x7D])
  | first (member : Member) (members : List Member) (text rest : Bytes) (h : member.Text text)
      (hrest : Members false members rest) : Members true (member :: members) (text ++ rest)
  | next (member : Member) (members : List Member) (blanks text rest : Bytes) (hblanks : Blanks blanks)
      (h : member.Text text) (hrest : Members false members rest) :
      Members false (member :: members) (blanks ++ 0x2C :: (text ++ rest))

/-- A text that is an object with these members. -/
inductive IsObject (members : List Member) : Bytes → Prop where
  | intro (before inside after : Bytes) (hbefore : Blanks before) (hinside : Members true members inside)
      (hafter : Blanks after) : IsObject members (before ++ 0x7B :: (inside ++ after))

/-- What comes after a member may come behind a value. -/
theorem Members.ends {members : List Member} {inside : Bytes} (h : Members false members inside)
    (rest : Bytes) : Ends (inside ++ rest) := by
  generalize hfirst : false = first at h
  cases h with
  | done first blanks hblanks =>
      rw [List.append_assoc]
      exact ends_blanks hblanks (by decide)
  | first => cases hfirst
  | next member members blanks text rest' hblanks h hrest =>
      rw [List.append_assoc]
      exact ends_blanks hblanks (by decide)

/-- A brace ends the object. -/
theorem nextKey_done {blanks : Bytes} (hblanks : Blanks blanks) (first : Bool) (rest : Bytes) :
    nextKey first (blanks ++ 0x7D :: rest) = .ok (.done rest) := by
  rw [nextKey, skipBlank_blanks hblanks (by decide)]
  exact if_pos rfl

section

variable {before key : Bytes} {name : String}

/-- A key is read as the name that it spells. -/
theorem readKey_spells (hkey : Spells key (Utf8.encode name)) (rest : Bytes) :
    readKey (key ++ 0x22 :: rest) = .ok (.key name rest) := by
  rw [readKey, scanString_spells hkey]
  rfl

/-- Before the first key there may be blanks. -/
theorem nextKey_first (hbefore : Blanks before) (hkey : Spells key (Utf8.encode name)) (rest : Bytes) :
    nextKey true (before ++ 0x22 :: (key ++ 0x22 :: rest)) = .ok (.key name rest) := by
  rw [nextKey, skipBlank_blanks hbefore (by decide)]
  dsimp only
  rw [if_neg (by decide), if_pos rfl, if_pos rfl]
  exact readKey_spells hkey rest

/-- Before every other key there is a comma, with blanks around it. -/
theorem nextKey_next {blanks : Bytes} (hblanks : Blanks blanks) (hbefore : Blanks before)
    (hkey : Spells key (Utf8.encode name)) (rest : Bytes) :
    nextKey false (blanks ++ 0x2C :: (before ++ 0x22 :: (key ++ 0x22 :: rest))) = .ok (.key name rest) := by
  rw [nextKey, skipBlank_blanks hblanks (by decide)]
  dsimp only
  rw [if_neg (by decide), if_neg (by decide), if_pos rfl, skipBlank_blanks hbefore (by decide)]
  dsimp only
  rw [if_pos rfl]
  exact readKey_spells hkey rest

/-- A colon parts a key from its value, with blanks around it. -/
theorem skipColon_colon {between : Bytes} (hbetween : Blanks between) (rest : Bytes) :
    skipColon (between ++ 0x3A :: rest) = .ok rest := by
  rw [skipColon, skipBlank_blanks hbetween (by decide)]
  exact if_pos rfl

end

/-! ## Rows -/

/-- The values of the members of a name. -/
def valuesOf (name : String) (members : List Member) : List Bytes :=
  (members.filter fun member => member.1 = name).map Prod.snd

/-- What members add to the value of a field that may have been read before. -/
def Field.Gains (field : Field) (members : List Member) (old new : Option field.Value) : Prop :=
  match valuesOf field.name members with
  | [] => new = old
  | [value] => old = none ∧ ∃ v, field.Takes value v ∧ new = some v
  | _ => False

/-- What members add to a row. -/
def PartialRow.Gains (members : List Member) :
    (fields : List Field) → PartialRow fields → PartialRow fields → Prop
  | [], _, _ => True
  | field :: fields, (old, row), (new, row') => field.Gains members old new ∧ Gains members fields row row'

/-- What a field holds after an object with these members has been read. -/
def Field.Holds (field : Field) (members : List Member) (v : field.Value) : Prop :=
  match valuesOf field.name members with
  | [] => field.absent = .ok v
  | [value] => field.Takes value v
  | _ => False

/-- What a row holds after an object with these members has been read. -/
def Row.Holds (members : List Member) : (fields : List Field) → Row fields → Prop
  | [], _ => True
  | field :: fields, (v, row) => field.Holds members v ∧ Holds members fields row

/-- The first member of a name comes before the others of it. -/
theorem valuesOf_cons (name : String) (member : Member) (members : List Member) :
    valuesOf name (member :: members) =
      if member.1 = name then member.2 :: valuesOf name members else valuesOf name members := by
  unfold valuesOf
  by_cases h : member.1 = name <;> simp [h]

/-- A field gains nothing from a member of another name. -/
theorem Field.gains_of_ne {field : Field} {name : String} {value : Bytes} (h : name ≠ field.name)
    (old : Option field.Value) : field.Gains [(name, value)] old old := by
  unfold Field.Gains
  rw [valuesOf_cons, if_neg h]
  rfl

/-- A field that gains something from a member gains nothing from the members after it. -/
theorem Field.Gains.trans {field : Field} {member : Member} {members : List Member}
    {old between new : Option field.Value} (h : field.Gains [member] old between)
    (hrest : field.Gains members between new) : field.Gains (member :: members) old new := by
  unfold Field.Gains at h hrest ⊢
  rw [valuesOf_cons] at h ⊢
  split_ifs at h ⊢ with hname
  · obtain ⟨hold, v, htakes, rfl⟩ := h
    rcases hvalues : valuesOf field.name members with _ | ⟨value, _ | ⟨value', values⟩⟩
    · rw [hvalues] at hrest
      exact ⟨hold, v, htakes, hrest⟩
    · rw [hvalues] at hrest
      exact nomatch hrest.1
    · rw [hvalues] at hrest
      exact hrest.elim
  · have hold : between = old := h
    subst hold
    exact hrest

namespace PartialRow

/-- Without members nothing is added. -/
theorem gains_nil (fields : List Field) (row : PartialRow fields) : Gains [] fields row row := by
  induction fields with
  | nil => trivial
  | cons field fields ih => exact ⟨rfl, ih row.2⟩

/-- A member of an unknown name adds nothing. -/
theorem gains_of_notMem {name : String} {value : Bytes} {fields : List Field}
    (h : name ∉ fields.map Field.name) (row : PartialRow fields) : Gains [(name, value)] fields row row := by
  induction fields with
  | nil => trivial
  | cons field fields ih =>
      rw [List.map_cons, List.mem_cons, not_or] at h
      obtain ⟨hne, hfields⟩ := h
      exact ⟨Field.gains_of_ne hne row.1, ih hfields row.2⟩

theorem Gains.trans {member : Member} {members : List Member} {fields : List Field}
    {row row' row'' : PartialRow fields} (h : Gains [member] fields row row')
    (hrest : Gains members fields row' row'') : Gains (member :: members) fields row row'' := by
  induction fields with
  | nil => trivial
  | cons field fields ih => exact ⟨h.1.trans hrest.1, ih h.2 hrest.2⟩

/-- A value that is put into its field, or passed over, adds a member to the row. -/
theorem put_gains {name : String} {between after value rest rest' : Bytes} {fields : List Field}
    {row row' : PartialRow fields} (hkinds : ∀ field ∈ fields, field.kind.isScalar = true)
    (hnames : (fields.map Field.name).Nodup) (hbetween : Blanks between) (hafter : Blanks after)
    (hvalue : Json.Text .value value) (hrest : Ends rest)
    (h : put name fields row (between ++ 0x3A :: (after ++ (value ++ rest))) = .ok (row', rest')) :
    Gains [(name, value)] fields row row' ∧ rest' = rest := by
  have hcolon := skipColon_colon hbetween (after ++ (value ++ rest))
  -- over the fields: the member goes to the first field of its name, and with distinct names to no
  -- other
  induction fields generalizing rest' with
  | nil =>
      unfold put at h
      obtain ⟨tail, hskip, hread⟩ := exists_of_bind_eq_ok h
      rw [hcolon] at hskip
      cases hskip
      obtain ⟨tail', hpast, hpair⟩ := exists_of_bind_eq_ok hread
      rw [skipValue_text hafter hvalue hrest] at hpast
      cases hpast
      cases hpair
      exact ⟨trivial, rfl⟩
  | cons field fields ih =>
      obtain ⟨old, row⟩ := row
      obtain ⟨hkind, hkinds'⟩ := List.forall_mem_cons.mp hkinds
      obtain ⟨hnew, hnames'⟩ := List.nodup_cons.mp hnames
      unfold put at h
      split_ifs at h with hname
      · subst hname
        split at h
        · cases h
        · obtain ⟨tail, hskip, hread⟩ := exists_of_bind_eq_ok h
          rw [hcolon] at hskip
          cases hskip
          obtain ⟨⟨v, tail'⟩, hfield, hpair⟩ := exists_of_bind_eq_ok hread
          obtain ⟨htakes, rfl⟩ := Field.read_takes hkind hafter hvalue hrest hfield
          cases hpair
          refine ⟨⟨?_, gains_of_notMem hnew row⟩, rfl⟩
          unfold Field.Gains
          rw [valuesOf_cons, if_pos rfl]
          exact ⟨rfl, v, htakes, rfl⟩
      · obtain ⟨⟨row₁, tail⟩, hput, hpair⟩ := exists_of_bind_eq_ok h
        obtain ⟨hgains, rfl⟩ := ih hkinds' hnames' hput
        cases hpair
        exact ⟨⟨Field.gains_of_ne (Ne.symm hname) old, hgains⟩, rfl⟩

end PartialRow

/-- The members of an object end where its brace does. -/
theorem readMembers_of_done {fields : List Field} {row : PartialRow fields} {first : Bool}
    {bytes rest : Bytes} (h : nextKey first bytes = .ok (.done rest)) :
    readMembers fields row first bytes = .ok (row, rest) := by
  rw [readMembers]
  split
  · rename_i fault heq
    rw [h] at heq
    cases heq
  · rename_i rest' heq
    rw [h] at heq
    cases heq
    rfl
  · rename_i name rest' heq
    rw [h] at heq
    cases heq

/-- A reader that gets on from a key has put the value of the key somewhere. -/
theorem exists_of_readMembers {fields : List Field} {row row' : PartialRow fields} {first : Bool}
    {bytes tail rest : Bytes} {name : String} (hkey : nextKey first bytes = .ok (.key name tail))
    (h : readMembers fields row first bytes = .ok (row', rest)) :
    ∃ row₁ tail₁, PartialRow.put name fields row tail = .ok (row₁, tail₁) ∧
      readMembers fields row₁ false tail₁ = .ok (row', rest) := by
  rw [readMembers] at h
  split at h
  · cases h
  · rename_i rest' heq
    rw [hkey] at heq
    cases heq
  · rename_i name' rest' heq
    rw [hkey] at heq
    cases heq
    split at h
    · cases h
    · rename_i row₁ tail₁ hput
      exact ⟨row₁, tail₁, hput, h⟩

/-- The members of an object are added to the row, up to the end of the object. -/
theorem readMembers_gains {fields : List Field} {first : Bool} {members : List Member}
    {inside rest rest' : Bytes} {row row' : PartialRow fields}
    (hkinds : ∀ field ∈ fields, field.kind.isScalar = true) (hnames : (fields.map Field.name).Nodup)
    (hinside : Members first members inside)
    (h : readMembers fields row first (inside ++ rest) = .ok (row', rest')) :
    PartialRow.Gains members fields row row' ∧ rest' = rest := by
  induction hinside generalizing row with
  | done first blanks hblanks =>
      simp only [List.append_assoc, List.cons_append, List.nil_append] at h
      rw [readMembers_of_done (nextKey_done hblanks first rest)] at h
      cases h
      exact ⟨PartialRow.gains_nil fields _, rfl⟩
  | first member members text inside htext hinside ih =>
      obtain ⟨name, before, key, between, after, value, hbefore, hkey, hbetween, hafter, hvalue⟩ := htext
      simp only [List.append_assoc, List.cons_append] at h
      obtain ⟨row₁, tail₁, hput, hread⟩ := exists_of_readMembers (nextKey_first hbefore hkey _) h
      obtain ⟨hgains, rfl⟩ :=
        PartialRow.put_gains hkinds hnames hbetween hafter hvalue (hinside.ends rest) hput
      obtain ⟨hmore, rfl⟩ := ih hread
      exact ⟨hgains.trans hmore, rfl⟩
  | next member members blanks text inside hblanks htext hinside ih =>
      obtain ⟨name, before, key, between, after, value, hbefore, hkey, hbetween, hafter, hvalue⟩ := htext
      simp only [List.append_assoc, List.cons_append] at h
      obtain ⟨row₁, tail₁, hput, hread⟩ :=
        exists_of_readMembers (nextKey_next hblanks hbefore hkey _) h
      obtain ⟨hgains, rfl⟩ :=
        PartialRow.put_gains hkinds hnames hbetween hafter hvalue (hinside.ends rest) hput
      obtain ⟨hmore, rfl⟩ := ih hread
      exact ⟨hgains.trans hmore, rfl⟩

/-- What has been gained, with what is absent filled in, is what the row holds. -/
theorem PartialRow.complete_holds {members : List Member} {fields : List Field} {row' : PartialRow fields}
    {full : Row fields} (hgains : Gains members fields (none fields) row')
    (h : complete fields row' = .ok full) : Row.Holds members fields full := by
  induction fields with
  | nil => trivial
  | cons field fields ih =>
      obtain ⟨v?, row'⟩ := row'
      obtain ⟨hfield, hfields⟩ := hgains
      have hfilled : ∃ v, (∀ w, v? = some w → v = w) ∧ (v? = Option.none → field.absent = .ok v) ∧
          ∃ tail, complete fields row' = .ok tail ∧ full = (v, tail) := by
        unfold complete at h
        rcases v? with _ | w
        · obtain ⟨v, hv, hrest⟩ := exists_of_bind_eq_ok h
          obtain ⟨tail, htail, hpair⟩ := exists_of_bind_eq_ok hrest
          cases hpair
          exact ⟨v, fun _ h => (nomatch h), fun _ => hv, tail, htail, rfl⟩
        · obtain ⟨v, hv, hrest⟩ := exists_of_bind_eq_ok h
          obtain ⟨tail, htail, hpair⟩ := exists_of_bind_eq_ok hrest
          cases hv
          cases hpair
          exact ⟨w, fun _ h => Option.some.inj h, fun h => (nomatch h), tail, htail, rfl⟩
      obtain ⟨v, hsome, hnone, tail, htail, rfl⟩ := hfilled
      refine ⟨?_, ih hfields htail⟩
      unfold Field.Holds
      unfold Field.Gains at hfield
      rcases hvalues : valuesOf field.name members with _ | ⟨value, _ | ⟨value', values⟩⟩
      · rw [hvalues] at hfield
        exact hnone hfield
      · rw [hvalues] at hfield
        obtain ⟨-, w, htakes, hw⟩ := hfield
        obtain rfl := hsome w hw
        exact htakes
      · rw [hvalues] at hfield
        exact hfield

/-- **A row that is read of an object holds what the members of the object mean**, each in the field of
its name. Members with other names have no part in it. -/
theorem Shape.read_object {shape : Shape} {members : List Member} {bytes : Bytes} {row : Row shape.fields}
    (hkinds : ∀ field ∈ shape.fields, field.kind.isScalar = true)
    (hnames : (shape.fields.map Field.name).Nodup) (hobject : IsObject members bytes)
    (h : shape.read bytes = .ok row) : Row.Holds members shape.fields row := by
  obtain ⟨before, inside, after, hbefore, hinside, hafter⟩ := hobject
  obtain ⟨⟨row', rest⟩, hread, hend⟩ := exists_of_bind_eq_ok h
  dsimp only at hend
  split_ifs at hend
  cases hend
  unfold Shape.readValue at hread
  rw [skipBlank_blanks hbefore (by decide)] at hread
  dsimp only at hread
  rw [if_pos rfl] at hread
  obtain ⟨⟨partial', rest'⟩, hmembers, hcomplete⟩ := exists_of_bind_eq_ok hread
  obtain ⟨full, hfull, hpair⟩ := exists_of_bind_eq_ok hcomplete
  cases hpair
  obtain ⟨hgains, -⟩ := readMembers_gains hkinds hnames hinside hmembers
  exact PartialRow.complete_holds hgains hfull

end Fostering.Json
