import Mathlib.Data.List.Forall2
import Mathlib.Data.List.Nodup
import Fostering.Memory.Rows

/-!
# Tables side by side

When the same rows are added to two tables, one after another, the tables are *paired* (`Paired`): their
rows match one by one, though each table gives its rows ids of its own. The pairs of ids are kept in a
list. An id is found in both tables or in none, so what looks rows up by their ids does the same to both.

* `Paired.found_or_none`: both tables have a row with an id, and the two match, or neither has one.
* `Paired.append`, `Paired.change`: tables stay paired when matching rows are added or changed.
-/

/-! ## Matching lists -/

namespace List.Forall₂

variable {α β : Type} {R : α → β → Prop} {rows : List α} {rows' : List β}

/-- A property that matching rows share is found in both lists, in matching rows, or in none. -/
theorem find? (h : List.Forall₂ R rows rows') {p : α → Bool} {p' : β → Bool}
    (hp : ∀ r r', R r r' → p r = p' r') : Option.Rel R (rows.find? p) (rows'.find? p') := by
  induction h with
  | nil => exact .none
  | @cons r r' rows rows' hr hrows ih =>
      rw [List.find?_cons, List.find?_cons, hp r r' hr]
      cases p' r' with
      | true => exact .some hr
      | false => exact ih

/-- What matching rows share picks matching rows. -/
theorem filter (h : List.Forall₂ R rows rows') {p : α → Bool} {p' : β → Bool}
    (hp : ∀ r r', R r r' → p r = p' r') : List.Forall₂ R (rows.filter p) (rows'.filter p') := by
  induction h with
  | nil => exact .nil
  | @cons r r' rows rows' hr hrows ih =>
      rw [List.filter_cons, List.filter_cons, hp r r' hr]
      cases p' r' with
      | true => exact .cons hr ih
      | false => exact ih

/-- What matching rows share is in both lists or in none. -/
theorem any (h : List.Forall₂ R rows rows') {p : α → Bool} {p' : β → Bool}
    (hp : ∀ r r', R r r' → p r = p' r') : rows.any p = rows'.any p' := by
  induction h with
  | nil => rfl
  | @cons r r' rows rows' hr hrows ih => rw [List.any_cons, List.any_cons, hp r r' hr, ih]

/-- Rows of lists that match have their matches in the other list. -/
theorem map_of_mem {S : α → β → Prop} {f : α → α} {f' : β → β} (h : List.Forall₂ R rows rows')
    (hf : ∀ r ∈ rows, ∀ r' ∈ rows', R r r' → S (f r) (f' r')) :
    List.Forall₂ S (rows.map f) (rows'.map f') := by
  induction h with
  | nil => exact .nil
  | @cons r r' rows rows' hr hrows ih =>
      exact .cons (hf r List.mem_cons_self r' List.mem_cons_self hr)
        (ih fun s hs s' hs' => hf s (List.mem_cons_of_mem _ hs) s' (List.mem_cons_of_mem _ hs'))

/-- A row of the second list has its match in the first. -/
theorem exists_of_mem_right (h : List.Forall₂ R rows rows') {r' : β} (hr' : r' ∈ rows') :
    ∃ r ∈ rows, R r r' := by
  induction h with
  | nil => cases hr'
  | @cons s s' rows rows' hs hrows ih =>
      rcases List.mem_cons.mp hr' with rfl | hmem
      · exact ⟨s, List.mem_cons_self, hs⟩
      · obtain ⟨r, hr, hmatch⟩ := ih hmem
        exact ⟨r, List.mem_cons_of_mem _ hr, hmatch⟩

/-- A row of the first list has its match in the second. -/
theorem exists_of_mem_left (h : List.Forall₂ R rows rows') {r : α} (hr : r ∈ rows) :
    ∃ r' ∈ rows', R r r' :=
  h.flip.exists_of_mem_right hr

end List.Forall₂

namespace Fostering

variable {α β : Type}

/-! ## Pairs of ids -/

/-- Two ids mean the same: rows that were made together have them, or no row has either. -/
inductive Refers (pairs : List (Int × Int)) : Int → Int → Prop where
  | made {i i' : Int} (mem : (i, i') ∈ pairs) : Refers pairs i i'
  | stray {i : Int} (unknown : ∀ pair ∈ pairs, pair.1 ≠ i ∧ pair.2 ≠ i) : Refers pairs i i

/-- No id is in two pairs. -/
def OneToOne (pairs : List (Int × Int)) : Prop := ∀ p ∈ pairs, ∀ q ∈ pairs, p.1 = q.1 ↔ p.2 = q.2

/-- The ids in pairs are not above these bounds. -/
def Bounded (pairs : List (Int × Int)) (last last' : Int) : Prop := ∀ p ∈ pairs, p.1 ≤ last ∧ p.2 ≤ last'

section

variable {pairs : List (Int × Int)} {i i' j j' last last' : Int}

/-- Ids that mean the same are the ids of the same rows. -/
theorem OneToOne.eq_iff (h : OneToOne pairs) (hi : Refers pairs i i') (hj : (j, j') ∈ pairs) :
    j = i ↔ j' = i' := by
  cases hi with
  | made hmem => exact h _ hj _ hmem
  | stray hunknown => exact ⟨fun heq => absurd heq (hunknown _ hj).1, fun heq => absurd heq (hunknown _ hj).2⟩

theorem Bounded.mono (h : Bounded pairs last last') (hi : last ≤ i) (hi' : last' ≤ i') :
    Bounded pairs i i' :=
  fun p hp => ⟨Int.le_trans (h p hp).1 hi, Int.le_trans (h p hp).2 hi'⟩

/-- A new id in each table makes a new pair. -/
theorem OneToOne.append (h : OneToOne pairs) (hbounded : Bounded pairs last last') (hi : last < i)
    (hi' : last' < i') : OneToOne (pairs ++ [(i, i')]) := by
  intro p hp q hq
  -- two new pairs, or two old ones, or one of each, whose ids the bounds keep apart
  rcases List.mem_append.mp hp with hp | hp <;> rcases List.mem_append.mp hq with hq | hq
  · exact h p hp q hq
  · have hle := hbounded p hp
    rw [List.mem_singleton.mp hq]
    constructor
    · intro heq
      dsimp only at heq
      omega
    · intro heq
      dsimp only at heq
      omega
  · have hle := hbounded q hq
    rw [List.mem_singleton.mp hp]
    constructor
    · intro heq
      dsimp only at heq
      omega
    · intro heq
      dsimp only at heq
      omega
  · rw [List.mem_singleton.mp hp, List.mem_singleton.mp hq]
    simp

/-- The ids of a new pair are the last ones that were given away. -/
theorem Bounded.append (h : Bounded pairs last last') (hi : last < i) (hi' : last' < i') :
    Bounded (pairs ++ [(i, i')]) i i' := by
  intro p hp
  rcases List.mem_append.mp hp with hp | hp
  · have hle := h p hp
    omega
  · rw [List.mem_singleton.mp hp]
    exact ⟨Int.le_refl i, Int.le_refl i'⟩

end

/-! ## Changing one row -/

/-- To change the first row with a property that tells an id is to change the row with the id. -/
theorem modifyFirst_eq_map {key : α → Int} {rows : List α} (hnodup : (rows.map key).Nodup) {p : α → Bool}
    {id : Int} (hp : ∀ r ∈ rows, p r = true ↔ key r = id) (f : α → α) :
    Memory.modifyFirst p f rows = rows.map fun r => if key r = id then f r else r := by
  induction rows with
  | nil => rfl
  | cons r rows ih =>
      rw [List.map_cons, List.nodup_cons] at hnodup
      have hfirst := hp r List.mem_cons_self
      have hrest : ∀ s ∈ rows, p s = true ↔ key s = id := fun s hs => hp s (List.mem_cons_of_mem _ hs)
      rw [Memory.modifyFirst, List.map_cons]
      by_cases hid : key r = id
      · have hothers : rows.map (fun s => if key s = id then f s else s) = rows := by
          refine (List.map_congr_left fun s hs => if_neg fun hs' => ?_).trans (List.map_id rows)
          exact hnodup.1 (List.mem_map.mpr ⟨s, hs, hs'.trans hid.symm⟩)
        rw [if_pos (hfirst.mpr hid), if_pos hid, hothers]
      · rw [if_neg (mt hfirst.mp hid), if_neg hid, ih hnodup.2 hrest]

/-! ## Paired tables -/

section

variable (pairs : List (Int × Int)) (key : α → Int) (key' : β → Int) (R : α → β → Prop)

/-- Two rows that were made together and are alike. -/
def Match (r : α) (r' : β) : Prop := (key r, key' r') ∈ pairs ∧ R r r'

/-- Two tables whose rows were made together, one after another. No id in the first one is above `last`, and
none in the second one above `last'`. -/
structure Paired (rows : List α) (rows' : List β) (last last' : Int) : Prop where
  matched : List.Forall₂ (Match pairs key key' R) rows rows'
  oneToOne : OneToOne pairs
  nodup : (rows.map key).Nodup
  bounded : Bounded pairs last last'

/-- The first rows of two tables that have two ids and a property each; they match. -/
structure Paired.Found (rows : List α) (rows' : List β) (p : α → Bool) (p' : β → Bool) (i i' : Int) (r : α)
    (r' : β) : Prop where
  matched : Match pairs key key' R r r'
  first : (rows.find? fun s => decide (key s = i) && p s) = some r
  first' : (rows'.find? fun s => decide (key' s = i') && p' s) = some r'

end

section

variable {pairs : List (Int × Int)} {key : α → Int} {key' : β → Int} {R S : α → β → Prop} {rows : List α}
  {rows' : List β} {p : α → Bool} {p' : β → Bool} {last last' i i' : Int} {r : α} {r' : β}

namespace Paired.Found

variable (h : Paired.Found pairs key key' R rows rows' p p' i i' r r')

include h

theorem mem : r ∈ rows := List.mem_of_find?_eq_some h.first

theorem mem' : r' ∈ rows' := List.mem_of_find?_eq_some h.first'

/-- The row is the one that was looked for. -/
theorem key_and : key r = i ∧ p r = true := by simpa using List.find?_some h.first

theorem key_and' : key' r' = i' ∧ p' r' = true := by simpa using List.find?_some h.first'

/-- The ids under which rows were found are those of rows that were made together. -/
theorem made : (i, i') ∈ pairs := by
  rw [← h.key_and.1, ← h.key_and'.1]
  exact h.matched.1

end Paired.Found

namespace Paired

/-- Two empty tables. -/
theorem nil : Paired [] key key' R [] [] last last' where
  matched := .nil
  oneToOne := nofun
  nodup := List.nodup_nil
  bounded := nofun

/-- The ids in the second table are told apart, too. -/
theorem nodup' (h : Paired pairs key key' R rows rows' last last') : (rows'.map key').Nodup := by
  obtain ⟨hrows, hone, hnodup, -⟩ := h
  induction hrows with
  | nil => exact List.nodup_nil
  | @cons r r' rows rows' hr hrows ih =>
      rw [List.map_cons, List.nodup_cons] at hnodup ⊢
      refine ⟨fun hmem => hnodup.1 ?_, ih hnodup.2⟩
      obtain ⟨s', hs', hkey⟩ := List.mem_map.mp hmem
      obtain ⟨s, hs, hmatch⟩ := hrows.exists_of_mem_right hs'
      exact List.mem_map.mpr ⟨s, hs, (hone _ hmatch.1 _ hr.1).mpr hkey⟩

/-- Matching rows have ids that mean the same together. -/
theorem key_eq_iff (h : Paired pairs key key' R rows rows' last last') (hi : Refers pairs i i') {r : α}
    {r' : β} (hr : Match pairs key key' R r r') : decide (key r = i) = decide (key' r' = i') :=
  decide_eq_decide.mpr (h.oneToOne.eq_iff hi hr.1)

/-- Both tables have a row with an id and a property, and the two match, or neither has one. -/
theorem found_or_none (h : Paired pairs key key' R rows rows' last last') (hi : Refers pairs i i')
    (hp : ∀ r r', R r r' → p r = p' r') :
    (∃ r r', Found pairs key key' R rows rows' p p' i i' r r') ∨
      (rows.find? fun r => decide (key r = i) && p r) = none ∧
        (rows'.find? fun r' => decide (key' r' = i') && p' r') = none := by
  have hboth : Option.Rel (Match pairs key key' R) (rows.find? fun r => decide (key r = i) && p r)
      (rows'.find? fun r' => decide (key' r' = i') && p' r') :=
    h.matched.find? fun r r' hr => by rw [h.key_eq_iff hi hr, hp r r' hr.2]
  rcases hfirst : rows.find? fun r => decide (key r = i) && p r with _ | r <;>
    rcases hfirst' : rows'.find? fun r' => decide (key' r' = i') && p' r' with _ | r' <;>
    rw [hfirst, hfirst'] at hboth
  · exact .inr ⟨rfl, rfl⟩
  · cases hboth
  · cases hboth
  · cases hboth with
    | some hmatched => exact .inl ⟨r, r', hmatched, hfirst, hfirst'⟩

/-- The row of the second table that was found is the only one with its id. -/
theorem any_eq (h : Paired pairs key key' R rows rows' last last')
    (hfound : Found pairs key key' R rows rows' p p' i i' r r') (q : β → Bool) :
    (rows'.any fun s => decide (key' s = i') && p' s && q s) = q r' := by
  obtain ⟨hkey, hp⟩ := hfound.key_and'
  rw [Bool.eq_iff_iff, List.any_eq_true]
  constructor
  · rintro ⟨s, hs, hall⟩
    simp only [Bool.and_eq_true, decide_eq_true_eq] at hall
    rw [← List.inj_on_of_nodup_map h.nodup' hs hfound.mem' (hall.1.1.trans hkey.symm)]
    exact hall.2
  · intro hq
    exact ⟨r', hfound.mem', by simp [hkey, hp, hq]⟩

/-- No id in the first table is above its bound. -/
theorem le_last (h : Paired pairs key key' R rows rows' last last') (hr : r ∈ rows) : key r ≤ last := by
  obtain ⟨r', -, hmatch⟩ := h.matched.exists_of_mem_left hr
  exact (h.bounded _ hmatch.1).1

/-- The next id of the first table is that of no row. -/
theorem unused (h : Paired pairs key key' R rows rows' last last') (hid : key r = last + 1) :
    ∀ s ∈ rows, key s ≠ key r := by
  intro s hs
  have hle := h.le_last hs
  omega

/-- More ids may be given away. -/
theorem mono (h : Paired pairs key key' R rows rows' last last') (hi : last ≤ i) (hi' : last' ≤ i') :
    Paired pairs key key' R rows rows' i i' :=
  { h with bounded := h.bounded.mono hi hi' }

/-- The next id of the second store may go to a row of another table. -/
theorem skip (h : Paired pairs key key' R rows rows' last last') :
    Paired pairs key key' R rows rows' last (last' + 1) :=
  h.mono (Int.le_refl last) (by omega)

/-- The rows with the next ids of both tables make a new pair. -/
theorem append (h : Paired pairs key key' R rows rows' last last') (hid : key r = last + 1)
    (hid' : key' r' = last' + 1) (hr : R r r') :
    Paired (pairs ++ [(key r, key' r')]) key key' R (rows ++ [r]) (rows' ++ [r']) (last + 1)
      (last' + 1) where
  matched := by
    have hrows : List.Forall₂ (Match (pairs ++ [(key r, key' r')]) key key' R) rows rows' :=
      h.matched.imp fun s s' hs => ⟨List.mem_append_left _ hs.1, hs.2⟩
    exact List.rel_append hrows (.cons ⟨List.mem_append_right _ (List.mem_singleton_self _), hr⟩ .nil)
  oneToOne := h.oneToOne.append h.bounded (by omega) (by omega)
  nodup := by
    rw [List.map_append, List.nodup_append]
    refine ⟨h.nodup, by simp, fun id hmem id' hmem' => ?_⟩
    obtain ⟨s, hs, rfl⟩ := List.mem_map.mp hmem
    have hle := h.le_last hs
    rw [List.map_singleton, List.mem_singleton] at hmem'
    omega
  bounded := by
    rw [← hid, ← hid']
    exact h.bounded.append (by omega) (by omega)

/-- Rows are changed so that they match and keep their ids. -/
theorem map (h : Paired pairs key key' R rows rows' last last') {f : α → α} {f' : β → β}
    (hf : ∀ r ∈ rows, ∀ r' ∈ rows', Match pairs key key' R r r' →
      key (f r) = key r ∧ key' (f' r') = key' r' ∧ S (f r) (f' r')) :
    Paired pairs key key' S (rows.map f) (rows'.map f') last last' where
  matched := h.matched.map_of_mem fun r hr r' hr' hmatch => by
    obtain ⟨hkey, hkey', hS⟩ := hf r hr r' hr' hmatch
    exact ⟨by rw [hkey, hkey']; exact hmatch.1, hS⟩
  oneToOne := h.oneToOne
  nodup := by
    have hkeys : (rows.map f).map key = rows.map key := by
      rw [List.map_map]
      refine List.map_congr_left fun r hr => ?_
      obtain ⟨r', hr', hmatch⟩ := h.matched.exists_of_mem_left hr
      exact (hf r hr r' hr' hmatch).1
    rw [hkeys]
    exact h.nodup
  bounded := h.bounded

/-- What is alike in one way is alike in another. -/
theorem imp (h : Paired pairs key key' R rows rows' last last')
    (hRS : ∀ s ∈ rows, ∀ s', R s s' → S s s') : Paired pairs key key' S rows rows' last last' := by
  have hsame : Paired pairs key key' S (rows.map id) (rows'.map id) last last' :=
    h.map fun s hs s' _ hmatch => ⟨rfl, rfl, hRS s hs s' hmatch.2⟩
  rwa [List.map_id, List.map_id] at hsame

/-- The rows that were found are changed so that they match and keep their ids: in the first table by their
id, in the second one by a property that no row with another id has. -/
theorem change (h : Paired pairs key key' R rows rows' last last')
    (hfound : Found pairs key key' R rows rows' p p' i i' r r') {f : α → α} {f' : β → β} {q : β → Bool}
    (hq : q r' = true) (honly : ∀ s ∈ rows', q s = true → key' s = i') (hkey : key (f r) = key r)
    (hkey' : key' (f' r') = key' r') (hf : S (f r) (f' r'))
    (hothers : ∀ s s', Match pairs key key' R s s' → key s ≠ i → S s s') :
    Paired pairs key key' S (rows.map fun s => if key s = i then f s else s)
      (Memory.modifyFirst q f' rows') last last' := by
  obtain ⟨hid, -⟩ := hfound.key_and
  obtain ⟨hid', -⟩ := hfound.key_and'
  have hrow {s : α} (hs : s ∈ rows) (heq : key s = i) : s = r :=
    List.inj_on_of_nodup_map h.nodup hs hfound.mem (heq.trans hid.symm)
  have hrow' {s : β} (hs : s ∈ rows') (heq : key' s = i') : s = r' :=
    List.inj_on_of_nodup_map h.nodup' hs hfound.mem' (heq.trans hid'.symm)
  have hproperty : ∀ s ∈ rows', q s = true ↔ key' s = i' :=
    fun s hs => ⟨honly s hs, fun heq => by rw [hrow' hs heq, hq]⟩
  rw [modifyFirst_eq_map h.nodup' hproperty]
  refine h.map fun s hs s' hs' hmatch => ?_
  have hiff : key s = i ↔ key' s' = i' := by
    rw [← hid, ← hid']
    exact h.oneToOne _ hmatch.1 _ hfound.matched.1
  by_cases heq : key s = i
  · rw [if_pos heq, if_pos (hiff.mp heq), hrow hs heq, hrow' hs' (hiff.mp heq)]
    exact ⟨hkey, hkey', hf⟩
  · rw [if_neg heq, if_neg (mt hiff.mpr heq)]
    exact ⟨rfl, rfl, hothers s s' hmatch heq⟩

end Paired

end

end Fostering
