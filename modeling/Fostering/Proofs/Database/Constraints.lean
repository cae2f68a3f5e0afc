import Fostering.Proofs.Database.Counters

/-!
# Unique indexes and references

The rules of a table (`Schema`) look at one row that is to be written. Here they are read as properties
of a whole table: no two rows share an id or stand in each other's way on a unique index
(`Exclusive`), and all references of all rows lead to rows (`Referring`). A table of which both hold is
*tidy*.

Rows are added, changed in place and erased; `Tidy.added`, `Tidy.mapped`, `Tidy.put` and `Tidy.filtered`
say when a table stays tidy.
-/

namespace Fostering

/-- The tables that other tables refer to. No row of theirs is ever erased. -/
def TableName.permanent : List TableName := [users, keepers, posts, chats]

/-- A table whose rows may stand in each other's way on a unique index. -/
class Exclusive (ρ : Type) [Schema ρ] where
  /-- Two rows stand in each other's way. -/
  Excludes : ρ → ρ → Prop
  symm : ∀ {r s : ρ}, Excludes r s → Excludes s r
  of_clash : ∀ {t : Tables} {r : ρ}, Schema.clash? t r = none →
    ∀ s ∈ Schema.others t r, ¬Excludes r s

/-- A table whose rows refer to rows of other tables. -/
class Referring (ρ : Type) [Schema ρ] where
  /-- The ids that a row refers to, each in a table. -/
  references : ρ → List (TableName × Int)
  of_orphan : ∀ {t : Tables} {r : ρ}, Schema.orphan? t r = none →
    ∀ reference ∈ references r, reference.2 ∈ reference.1.ids t
  permanent : ∀ r, ∀ reference ∈ references r, reference.1 ∈ TableName.permanent

namespace Schema

/-- The rows have an id if one of them does. -/
theorem hasId_iff {ρ : Type} [Table ρ] {rows : List ρ} {id : Int} :
    hasId rows id = true ↔ id ∈ rows.map Table.id := by
  simp [hasId]

/-- A user who is not missed is among the users. -/
theorem missingUser?_eq_none {t : Tables} {table column : String} {id : Int}
    (h : missingUser? t table column id = none) : id ∈ TableName.users.ids t := by
  unfold missingUser? at h
  split_ifs at h with hid
  exact hasId_iff.mp hid

/-- The other rows of a table are those with other ids. -/
theorem mem_others {ρ : Type} [Table ρ] {t : Tables} {r s : ρ} :
    s ∈ others t r ↔ s ∈ (Table.rows t : List ρ) ∧ Table.id s ≠ Table.id r := by
  simp [others]

/-- What is not found among the other rows is not there. -/
theorem not_of_any {ρ : Type} {p : ρ → Bool} {rows : List ρ} {index : UniqueIndex}
    (h : (if rows.any p then some index else none) = none) : ∀ r ∈ rows, ¬p r = true := by
  split_ifs at h with hany
  intro r hr hp
  exact hany (List.any_eq_true.mpr ⟨r, hr, hp⟩)

end Schema

/-! ## Tables -/

section

open Schema (not_of_any missingUser?_eq_none hasId_iff)

/-- Users are never taken out of their table. -/
theorem users_permanent : TableName.users ∈ TableName.permanent := by decide

instance : Exclusive User where
  Excludes u v := u.username = v.username ∨ u.email = v.email
  symm := Or.imp Eq.symm Eq.symm
  of_clash := by
    intro t u h v hv hsame
    simp only [Schema.clash?] at h
    split_ifs at h with hname hemail
    rcases hsame with heq | heq
    · exact hname (List.any_eq_true.mpr ⟨v, hv, decide_eq_true heq.symm⟩)
    · exact hemail (List.any_eq_true.mpr ⟨v, hv, decide_eq_true heq.symm⟩)

instance : Referring User where
  references _ := []
  of_orphan _ _ h := absurd h List.not_mem_nil
  permanent _ _ h := absurd h List.not_mem_nil

instance : Exclusive Keeper where
  Excludes k l := k.entry.isLive = true ∧ l.entry.isLive = true ∧ k.userId = l.userId
  symm h := ⟨h.2.1, h.1, h.2.2.symm⟩
  of_clash := by
    intro t k h l hl hsame
    exact not_of_any h l hl (by simp [hsame])

instance : Referring Keeper where
  references k := [(.users, k.userId)]
  of_orphan h := List.forall_mem_singleton.mpr (missingUser?_eq_none h)
  permanent _ := List.forall_mem_singleton.mpr users_permanent

instance : Exclusive Seeker where
  Excludes s r := s.entry.isLive = true ∧ r.entry.isLive = true ∧ s.userId = r.userId
  symm h := ⟨h.2.1, h.1, h.2.2.symm⟩
  of_clash := by
    intro t s h r hr hsame
    exact not_of_any h r hr (by simp [hsame])

instance : Referring Seeker where
  references s := [(.users, s.userId)]
  of_orphan h := List.forall_mem_singleton.mpr (missingUser?_eq_none h)
  permanent _ := List.forall_mem_singleton.mpr users_permanent

instance : Exclusive Vet where
  Excludes v w := v.entry.isLive = true ∧ w.entry.isLive = true ∧ v.userId = w.userId
  symm h := ⟨h.2.1, h.1, h.2.2.symm⟩
  of_clash := by
    intro t v h w hw hsame
    exact not_of_any h w hw (by simp [hsame])

instance : Referring Vet where
  references v := [(.users, v.userId)]
  of_orphan h := List.forall_mem_singleton.mpr (missingUser?_eq_none h)
  permanent _ := List.forall_mem_singleton.mpr users_permanent

instance : Exclusive Post where
  Excludes _ _ := False
  symm h := h
  of_clash _ _ _ h := h

instance : Referring Post where
  references p := [(.users, p.authorId)]
  of_orphan h := List.forall_mem_singleton.mpr (missingUser?_eq_none h)
  permanent _ := List.forall_mem_singleton.mpr users_permanent

instance : Exclusive Report where
  Excludes r s := r.postId = s.postId ∧ r.reporterId = s.reporterId
  symm h := ⟨h.1.symm, h.2.symm⟩
  of_clash := by
    intro t r h s hs hsame
    exact not_of_any h s hs (by simp [hsame])

instance : Referring Report where
  references r := [(.posts, r.postId), (.users, r.reporterId)]
  of_orphan := by
    intro t r h
    simp only [Schema.orphan?] at h
    split_ifs at h with hpost
    exact List.forall_mem_cons.mpr ⟨hasId_iff.mp hpost,
      List.forall_mem_singleton.mpr (missingUser?_eq_none h)⟩
  permanent _ := List.forall_mem_cons.mpr
    ⟨show TableName.posts ∈ TableName.permanent by decide, List.forall_mem_singleton.mpr users_permanent⟩

instance : Exclusive Review where
  Excludes r s := r.entry.isLive = true ∧ s.entry.isLive = true ∧
    r.keeperId = s.keeperId ∧ r.authorId = s.authorId
  symm h := ⟨h.2.1, h.1, h.2.2.1.symm, h.2.2.2.symm⟩
  of_clash := by
    intro t r h s hs hsame
    exact not_of_any h s hs (by simp [hsame])

instance : Referring Review where
  references r := [(.keepers, r.keeperId), (.users, r.authorId)]
  of_orphan := by
    intro t r h
    simp only [Schema.orphan?] at h
    split_ifs at h with hkeeper
    exact List.forall_mem_cons.mpr ⟨hasId_iff.mp hkeeper,
      List.forall_mem_singleton.mpr (missingUser?_eq_none h)⟩
  permanent _ := List.forall_mem_cons.mpr
    ⟨show TableName.keepers ∈ TableName.permanent by decide, List.forall_mem_singleton.mpr users_permanent⟩

instance : Exclusive Chat where
  Excludes _ _ := False
  symm h := h
  of_clash _ _ _ h := h

instance : Referring Chat where
  references c := [(.users, c.createdBy)]
  of_orphan h := List.forall_mem_singleton.mpr (missingUser?_eq_none h)
  permanent _ := List.forall_mem_singleton.mpr users_permanent

instance : Exclusive Message where
  Excludes _ _ := False
  symm h := h
  of_clash _ _ _ h := h

instance : Referring Message where
  references m := [(.chats, m.chatId), (.users, m.senderId)]
  of_orphan := by
    intro t m h
    simp only [Schema.orphan?] at h
    split_ifs at h with hchat
    exact List.forall_mem_cons.mpr ⟨hasId_iff.mp hchat,
      List.forall_mem_singleton.mpr (missingUser?_eq_none h)⟩
  permanent _ := List.forall_mem_cons.mpr
    ⟨show TableName.chats ∈ TableName.permanent by decide, List.forall_mem_singleton.mpr users_permanent⟩

instance : Exclusive Session where
  Excludes r s := r.tokenHash = s.tokenHash
  symm := Eq.symm
  of_clash := by
    intro t s h r hr hsame
    exact not_of_any h r hr (decide_eq_true hsame.symm)

instance : Referring Session where
  references s := [(.users, s.userId)]
  of_orphan h := List.forall_mem_singleton.mpr (missingUser?_eq_none h)
  permanent _ := List.forall_mem_singleton.mpr users_permanent

end

namespace Database

variable {ρ : Type} {t t' : Tables}

/-! ## Growing -/

/-- The ids that rows refer to stay. -/
def Grows (t t' : Tables) : Prop := ∀ name ∈ TableName.permanent, name.ids t ⊆ name.ids t'

/-- Where the same ids are in use, nothing has gone. -/
theorem grows_of_ids_eq (h : ∀ name : TableName, name.ids t' = name.ids t) : Grows t t' :=
  fun name _ => h name ▸ List.Subset.refl _

/-- What grows is decided by the tables that are written. -/
theorem grows_of_changes {tables : List TableName}
    (hframe : ∀ name, name ∉ tables → name.Agrees t t')
    (hids : ∀ name ∈ tables, name ∈ TableName.permanent → name.ids t ⊆ name.ids t') : Grows t t' := by
  intro name hname
  by_cases hwritten : name ∈ tables
  · exact hids name hwritten hname
  · rw [TableName.ids_of_agrees (hframe name hwritten)]
    exact List.Subset.refl _

/-- A table grows by a new row. -/
theorem grows_addRow [Table ρ] [NamedTable ρ] [NumberedTable ρ] (new : ρ) (t : Tables) :
    Grows t (addRow new t) := by
  intro name _
  by_cases hname : name = NamedTable.name ρ
  · subst hname
    rw [NumberedTable.ids_eq, NumberedTable.ids_eq]
    unfold ids
    rw [rows_addRow, List.map_append]
    exact List.subset_append_left _ _
  · have hagrees : name.Agrees t (addRow new t) := NamedTable.agrees_setRows hname _ t
    rw [TableName.ids_of_agrees hagrees]
    exact List.Subset.refl _

/-- A table grows, or stays as it is, when a row takes the place of another. -/
theorem grows_putRow [Table ρ] [NamedTable ρ] [NumberedTable ρ] (new : ρ) (t : Tables) :
    Grows t (putRow new t) :=
  grows_of_ids_eq (ids_putRow_of_name new t)

/-! ## Rows side by side -/

section

variable [Table ρ] {rows : List ρ} {Q : ρ → ρ → Prop}

/-- A relation holds between any two rows with different ids. -/
def Apart (Q : ρ → ρ → Prop) (rows : List ρ) : Prop :=
  ∀ r ∈ rows, ∀ s ∈ rows, Table.id r ≠ Table.id s → Q r s

/-- Fewer rows are still apart. -/
theorem Apart.of_subset {rows' : List ρ} (h : Apart Q rows) (hsub : rows' ⊆ rows) : Apart Q rows' :=
  fun r hr s hs => h r (hsub hr) s (hsub hs)

/-- A new row keeps rows apart if it is apart from each of them. -/
theorem Apart.added (h : Apart Q rows) (hsymm : ∀ {r s}, Q r s → Q s r) {new : ρ}
    (hnew : ∀ s ∈ rows, Q new s) : Apart Q (rows ++ [new]) := by
  intro r hr s hs hne
  rw [List.mem_append, List.mem_singleton] at hr hs
  rcases hr with hr | rfl
  · rcases hs with hs | rfl
    · exact h r hr s hs hne
    · exact hsymm (hnew r hr)
  · rcases hs with hs | rfl
    · exact hnew s hs
    · exact absurd rfl hne

/-- Rows stay apart if one takes the place of those with its id and is apart from all others. -/
theorem Apart.put (h : Apart Q rows) (hsymm : ∀ {r s}, Q r s → Q s r) {new : ρ}
    (hnew : ∀ s ∈ rows, Table.id s ≠ Table.id new → Q new s) :
    Apart Q (rows.map fun r => if Table.id r = Table.id new then new else r) := by
  intro r hr s hs hne
  obtain ⟨r₀, hr₀, rfl⟩ := List.mem_map.mp hr
  obtain ⟨s₀, hs₀, rfl⟩ := List.mem_map.mp hs
  by_cases hr' : Table.id r₀ = Table.id new
  · rw [if_pos hr'] at hne ⊢
    by_cases hs' : Table.id s₀ = Table.id new
    · rw [if_pos hs'] at hne
      exact absurd rfl hne
    · rw [if_neg hs']
      exact hnew s₀ hs₀ hs'
  · rw [if_neg hr'] at hne ⊢
    by_cases hs' : Table.id s₀ = Table.id new
    · rw [if_pos hs']
      exact hsymm (hnew r₀ hr₀ hr')
    · rw [if_neg hs'] at hne ⊢
      exact h r₀ hr₀ s₀ hs₀ hne

end

/-! ## Tidy tables -/

section

variable [Schema ρ] [Exclusive ρ] [Referring ρ]

/-- No two rows of a table share an id or stand in each other's way, and no row refers to nothing. -/
structure Tidy (ρ : Type) [Schema ρ] [Exclusive ρ] [Referring ρ] (t : Tables) : Prop where
  keys : (ids ρ t).Nodup
  apart : Apart (fun r s : ρ => ¬Exclusive.Excludes r s) (Table.rows t)
  refers : ∀ r ∈ (Table.rows t : List ρ), ∀ reference ∈ Referring.references r,
    reference.2 ∈ reference.1.ids t

/-- A table without rows is tidy. -/
theorem tidy_of_rows_nil (h : (Table.rows t : List ρ) = []) : Tidy ρ t := by
  constructor
  · unfold ids
    rw [h]
    exact .nil
  · rw [h]
    exact fun _ hr => absurd hr List.not_mem_nil
  · rw [h]
    exact fun _ hr => absurd hr List.not_mem_nil

omit [Referring ρ] in
/-- Rows exclude one another mutually. -/
theorem not_excludes_symm {r s : ρ} (h : ¬Exclusive.Excludes r s) : ¬Exclusive.Excludes s r :=
  fun hexcludes => h (Exclusive.symm hexcludes)

namespace Tidy

/-- The only row with an id. -/
theorem eq_of_id (h : Tidy ρ t) {r s : ρ} (hr : r ∈ (Table.rows t : List ρ))
    (hs : s ∈ (Table.rows t : List ρ)) (hid : Table.id r = Table.id s) : r = s :=
  eq_of_key h.keys hr hs hid

/-- What rows refer to is still there. -/
theorem referred (h : Tidy ρ t) (hgrows : Grows t t') {r : ρ} (hr : r ∈ (Table.rows t : List ρ)) :
    ∀ reference ∈ Referring.references r, reference.2 ∈ reference.1.ids t' :=
  fun reference hreference =>
    hgrows _ (Referring.permanent r reference hreference) (h.refers r hr reference hreference)

/-- A table stays tidy if its rows stay. -/
theorem same (h : Tidy ρ t) (hrows : (Table.rows t' : List ρ) = Table.rows t) (hgrows : Grows t t') :
    Tidy ρ t' := by
  constructor
  · unfold ids
    rw [hrows]
    exact h.keys
  · rw [hrows]
    exact h.apart
  · intro r hr
    rw [hrows] at hr
    exact h.referred hgrows hr

/-- A table stays tidy if a row is new that may be. -/
theorem added (h : Tidy ρ t) {new : ρ} (hrows : (Table.rows t' : List ρ) = Table.rows t ++ [new])
    (hgrows : Grows t t') (hnew : IsInsertable t new) : Tidy ρ t' := by
  have hfree : ∀ s ∈ (Table.rows t : List ρ), ¬Exclusive.Excludes new s := fun s hs =>
    Exclusive.of_clash hnew.clash s (Schema.mem_others.mpr ⟨hs, hnew.unused s hs⟩)
  constructor
  · have hids : ids ρ t' = ids ρ t ++ [Table.id new] := by
      unfold ids
      rw [hrows, List.map_append, List.map_singleton]
    rw [hids, ← List.concat_eq_append, List.nodup_concat]
    refine ⟨fun hused => ?_, h.keys⟩
    obtain ⟨r, hr, hid⟩ := List.mem_map.mp hused
    exact hnew.unused r hr hid
  · rw [hrows]
    exact h.apart.added not_excludes_symm hfree
  · intro r hr
    rw [hrows, List.mem_append, List.mem_singleton] at hr
    rcases hr with hr | rfl
    · exact h.referred hgrows hr
    · exact fun reference hreference =>
        hgrows _ (Referring.permanent r reference hreference)
          (Referring.of_orphan hnew.orphan reference hreference)

/-- A table stays tidy if its rows are changed in place, and none comes to stand in another's way. -/
theorem mapped (h : Tidy ρ t) {f : ρ → ρ} (hrows : (Table.rows t' : List ρ) = (Table.rows t).map f)
    (hgrows : Grows t t') (hids : ∀ r ∈ (Table.rows t : List ρ), Table.id (f r) = Table.id r)
    (hreferences : ∀ r ∈ (Table.rows t : List ρ), Referring.references (f r) = Referring.references r)
    (hapart : Apart (fun r s : ρ => ¬Exclusive.Excludes r s) ((Table.rows t).map f)) : Tidy ρ t' := by
  constructor
  · have heq : ids ρ t' = ids ρ t := by
      unfold ids
      rw [hrows, List.map_map]
      exact List.map_congr_left hids
    rw [heq]
    exact h.keys
  · rw [hrows]
    exact hapart
  · intro r hr
    rw [hrows] at hr
    obtain ⟨r₀, hr₀, rfl⟩ := List.mem_map.mp hr
    rw [hreferences r₀ hr₀]
    exact h.referred hgrows hr₀

/-- A table stays tidy if a row takes the place of another, refers to the same rows and stands in no
other's way. -/
theorem put (h : Tidy ρ t) {new old : ρ}
    (hrows : (Table.rows t' : List ρ) =
      (Table.rows t).map fun r => if Table.id r = Table.id new then new else r)
    (hgrows : Grows t t') (hold : old ∈ (Table.rows t : List ρ)) (hid : Table.id new = Table.id old)
    (hreferences : Referring.references new = Referring.references old)
    (hfree : ∀ s ∈ (Table.rows t : List ρ), Table.id s ≠ Table.id old → ¬Exclusive.Excludes new s) :
    Tidy ρ t' := by
  have hapart := h.apart.put not_excludes_symm fun s hs hne => hfree s hs (hid ▸ hne)
  refine h.mapped hrows hgrows (fun r _ => ?_) (fun r hr => ?_) hapart
  · split_ifs with heq
    · exact heq.symm
    · rfl
  · split_ifs with heq
    · rw [h.eq_of_id hr hold (heq.trans hid)]
      exact hreferences
    · rfl

/-- A table stays tidy if rows are erased. -/
theorem filtered (h : Tidy ρ t) {p : ρ → Bool}
    (hrows : (Table.rows t' : List ρ) = (Table.rows t).filter p) (hgrows : Grows t t') : Tidy ρ t' := by
  have hmem {r : ρ} (hr : r ∈ (Table.rows t' : List ρ)) : r ∈ (Table.rows t : List ρ) := by
    rw [hrows] at hr
    exact (List.mem_filter.mp hr).1
  constructor
  · have hsub : (ids ρ t').Sublist (ids ρ t) := by
      unfold ids
      rw [hrows]
      exact List.filter_sublist.map _
    exact h.keys.sublist hsub
  · exact h.apart.of_subset fun _ => hmem
  · exact fun r hr => h.referred hgrows (hmem hr)

end Tidy

omit [Referring ρ] in
/-- A row that may take the place of another stands in no other's way. -/
theorem not_excludes_of_isAdmissible {new s : ρ} (h : IsAdmissible t new)
    (hs : s ∈ (Table.rows t : List ρ)) (hne : Table.id s ≠ Table.id new) : ¬Exclusive.Excludes new s :=
  Exclusive.of_clash h.clash s (Schema.mem_others.mpr ⟨hs, hne⟩)

end

end Database

end Fostering
