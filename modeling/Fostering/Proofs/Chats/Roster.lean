import Mathlib.Data.Finset.Basic
import Mathlib.Data.Finset.Dedup
import Mathlib.Data.List.Nodup
import Mathlib.Data.List.Perm.Basic
import Fostering.Chat

/-!
# For whom a chat is opened

The members of a new chat are a roster of its creator and of the ids that the request names: the creator comes
first, nobody comes twice, and the others come in the order in which the request first names them (`IsRoster`).
One id after another can be enrolled, and after each of them the members are a roster of the ids so far
(`IsRoster.enrolled`). There is one roster only (`IsRoster.unique`).

* `CreateChat.membersWith_eq_foldl`: the members are enrolled one after another.
* `CreateChat.isRoster_membersWith`: they are a roster.
* `CreateChat.nodup_membersWith`, `CreateChat.toFinset_membersWith`: who they are, once each.
-/

namespace Fostering

/-- The members after one more id has been enrolled. Whoever is a member stays where they are. -/
def enrolled (members : List Int) (id : Int) : List Int :=
  if id ∈ members then members else members ++ [id]

/-- To enroll ids one after another is to append those that are not seen yet. -/
theorem foldl_enrolled {seen members : List Int} (hseen : ∀ id, id ∈ seen ↔ id ∈ members) (ids : List Int) :
    ids.foldl enrolled members = members ++ unseen seen ids := by
  induction ids generalizing seen members with
  | nil => exact (List.append_nil members).symm
  | cons id ids ih =>
      rw [List.foldl_cons, unseen, enrolled]
      by_cases hmem : id ∈ members
      · rw [if_pos hmem, if_pos (List.contains_iff_mem.mpr ((hseen id).mpr hmem)), ih hseen]
      · rw [if_neg hmem, if_neg (mt List.contains_iff_mem.mp (mt (hseen id).mp hmem))]
        have hmore : ∀ other, other ∈ id :: seen ↔ other ∈ members ++ [id] := by
          intro other
          rw [List.mem_cons, List.mem_append, List.mem_singleton, hseen, or_comm]
        rw [ih hmore, List.append_assoc]
        rfl

/-- The members of a chat that its creator opens for some ids. -/
structure IsRoster (creatorId : Int) (ids members : List Int) : Prop where
  first : members.head? = some creatorId
  nodup : members.Nodup
  mem_iff : ∀ id, id ∈ members ↔ id = creatorId ∨ id ∈ ids
  /-- The others come in the order in which they are first named. -/
  ordered : members.tail.Pairwise fun a b => ids.idxOf a < ids.idxOf b

namespace IsRoster

variable {creatorId id : Int} {ids members others : List Int}

/-- The creator comes first. -/
theorem eq_cons (h : IsRoster creatorId ids members) : members = creatorId :: members.tail :=
  List.eq_cons_of_mem_head? h.first

/-- The creator is not among the others. -/
theorem nodup_cons (h : IsRoster creatorId ids members) : creatorId ∉ members.tail ∧ members.tail.Nodup := by
  have hnodup := h.nodup
  rw [h.eq_cons] at hnodup
  exact List.nodup_cons.mp hnodup

/-- The others are those who are named and are not the creator. -/
theorem mem_tail_iff (h : IsRoster creatorId ids members) : id ∈ members.tail ↔ id ≠ creatorId ∧ id ∈ ids := by
  have hmem := h.mem_iff id
  rw [h.eq_cons, List.mem_cons] at hmem
  constructor
  · intro hid
    have hne : id ≠ creatorId := by
      rintro rfl
      exact h.nodup_cons.1 hid
    exact ⟨hne, (hmem.mp (.inr hid)).resolve_left hne⟩
  · exact fun hid => (hmem.mpr (.inr hid.2)).resolve_left hid.1

/-- Before anybody is named, the creator is the only member. -/
theorem nil (creatorId : Int) : IsRoster creatorId [] [creatorId] where
  first := rfl
  nodup := List.nodup_singleton creatorId
  mem_iff _ := by simp
  ordered := .nil

/-- **One more id makes a roster of one id more.** -/
theorem enrolled (h : IsRoster creatorId ids members) (id : Int) :
    IsRoster creatorId (ids ++ [id]) (enrolled members id) := by
  -- naming one more does not change where the others have first been named
  have hkept : members.tail.Pairwise fun a b => (ids ++ [id]).idxOf a < (ids ++ [id]).idxOf b := by
    refine h.ordered.imp_of_mem fun ha hb hlt => ?_
    rwa [List.idxOf_append_of_mem (h.mem_tail_iff.mp ha).2, List.idxOf_append_of_mem (h.mem_tail_iff.mp hb).2]
  unfold Fostering.enrolled
  by_cases hmem : id ∈ members
  · rw [if_pos hmem]
    refine ⟨h.first, h.nodup, fun other => ?_, hkept⟩
    rw [h.mem_iff, List.mem_append, List.mem_singleton]
    constructor
    · exact fun hother => hother.imp_right .inl
    · rintro (rfl | hother | rfl)
      · exact .inl rfl
      · exact .inr hother
      · exact (h.mem_iff _).mp hmem
  · rw [if_neg hmem]
    have hnew : id ∉ ids := fun hid => hmem ((h.mem_iff id).mpr (.inr hid))
    have htail : (members ++ [id]).tail = members.tail ++ [id] := by
      rw [h.eq_cons]
      rfl
    refine ⟨?_, ?_, fun other => ?_, ?_⟩
    · rw [h.eq_cons]
      rfl
    · exact List.nodup_append.mpr ⟨h.nodup, List.nodup_singleton id, fun a ha b hb heq =>
        hmem (List.mem_singleton.mp hb ▸ heq ▸ ha)⟩
    · rw [List.mem_append, List.mem_append, h.mem_iff, or_assoc]
    · rw [htail]
      refine List.pairwise_append.mpr ⟨hkept, List.pairwise_singleton _ _, fun a ha b hb => ?_⟩
      have hnamed : a ∈ ids := (h.mem_tail_iff.mp ha).2
      rw [List.mem_singleton.mp hb, List.idxOf_append_of_mem hnamed, List.idxOf_append_of_notMem hnew]
      have hbefore : ids.idxOf a < ids.length := List.idxOf_lt_length_iff.mpr hnamed
      omega

/-- More ids make a roster of all of them. -/
theorem foldl (h : IsRoster creatorId ids members) (more : List Int) :
    IsRoster creatorId (ids ++ more) (more.foldl Fostering.enrolled members) := by
  induction more generalizing ids members with
  | nil =>
      rw [List.append_nil]
      exact h
  | cons id more ih =>
      rw [List.append_cons]
      exact ih (h.enrolled id)

/-- **There is one roster only.** -/
theorem unique (h : IsRoster creatorId ids members) (h' : IsRoster creatorId ids others) : members = others := by
  have hperm : members.tail.Perm others.tail :=
    (List.perm_ext_iff_of_nodup h.nodup_cons.2 h'.nodup_cons.2).mpr fun id => by
      rw [h.mem_tail_iff, h'.mem_tail_iff]
  have htail : members.tail = others.tail :=
    hperm.eq_of_pairwise (fun _ _ _ _ hab hba => absurd hab (Nat.lt_asymm hba)) h.ordered h'.ordered
  rw [h.eq_cons, h'.eq_cons, htail]

/-- The members are a roster of themselves. -/
theorem self (h : IsRoster creatorId ids members) : IsRoster creatorId members members where
  first := h.first
  nodup := h.nodup
  mem_iff id := by
    have hcreator : creatorId ∈ members := (h.mem_iff creatorId).mpr (.inl rfl)
    constructor
    · exact .inr
    · rintro (rfl | hid)
      · exact hcreator
      · exact hid
  ordered := by
    have hplaces : members.Pairwise fun a b => members.idxOf a < members.idxOf b := by
      refine List.pairwise_iff_getElem.mpr fun i j hi hj hlt => ?_
      rwa [h.nodup.idxOf_getElem i hi, h.nodup.idxOf_getElem j hj]
    exact hplaces.sublist (List.tail_sublist members)

end IsRoster

namespace CreateChat

/-- The members are enrolled one after another, the creator before all whom the request names. -/
theorem membersWith_eq_foldl (request : CreateChat) (creatorId : Int) :
    request.membersWith creatorId = request.memberIds.foldl enrolled [creatorId] := by
  have hseen : ∀ id, id ∈ [creatorId] ↔ id ∈ [creatorId] := fun _ => Iff.rfl
  exact (foldl_enrolled hseen request.memberIds).symm

/-- The members of a request are a roster of those who are named. -/
theorem isRoster_membersWith (request : CreateChat) (creatorId : Int) :
    IsRoster creatorId request.memberIds (request.membersWith creatorId) := by
  rw [membersWith_eq_foldl]
  exact (IsRoster.nil creatorId).foldl request.memberIds

/-- A chat is opened for nobody twice. -/
theorem nodup_membersWith (request : CreateChat) (creatorId : Int) : (request.membersWith creatorId).Nodup :=
  (request.isRoster_membersWith creatorId).nodup

/-- A chat is opened for its creator and for whomever the request names. -/
theorem mem_membersWith {request : CreateChat} {creatorId id : Int} :
    id ∈ request.membersWith creatorId ↔ id ∈ creatorId :: request.memberIds := by
  rw [(request.isRoster_membersWith creatorId).mem_iff, List.mem_cons]

/-- Everybody who is named is a member, and so is the creator, and nobody else. -/
theorem toFinset_membersWith (request : CreateChat) (creatorId : Int) :
    (request.membersWith creatorId).toFinset = {creatorId} ∪ request.memberIds.toFinset := by
  ext id
  rw [List.mem_toFinset, mem_membersWith, List.mem_cons, Finset.mem_union, Finset.mem_singleton,
    List.mem_toFinset]

/-- **A chat is opened for a roster of its creator and of the ids of the request,** the only one that there is.
Whoever asks for it with these members gets the same ones again. -/
theorem roster_of_request (request : CreateChat) (creatorId : Int) :
    (∀ members, IsRoster creatorId request.memberIds members ↔ members = request.membersWith creatorId) ∧
      membersWith { request with memberIds := request.membersWith creatorId } creatorId =
        request.membersWith creatorId := by
  have hroster := request.isRoster_membersWith creatorId
  constructor
  · intro members
    constructor
    · exact fun h => h.unique hroster
    · rintro rfl
      exact hroster
  · exact (isRoster_membersWith _ creatorId).unique hroster.self

/-- The creator is named among others, and somebody twice. -/
example : membersWith { memberIds := [5, 1, 5, 9] } 1 = [1, 5, 9] := by decide

end CreateChat

end Fostering
