import Fostering.Proofs.Memory.Pairing

/-!
# Records of two stores that are alike

Two stores give the same record ids of their own, and date it by clocks of their own. `Names` keeps the
pairs of ids that records of both stores got together. Up to these pairs, and to dates, two records can be
the same: `SameRow` says it of posts and chats, `Report.Same` and `Message.Same` also ask that the posts and
chats which they belong to are the same. In the same sense two causes of a refusal can be the same
(`Error.Alike`), and two lists whose rows come in orders of their own (`ListsAlike`).
-/

namespace Fostering

/-- The ids that two stores gave to the same records, in pairs. -/
structure Names where
  posts : List (Int × Int) := []
  reports : List (Int × Int) := []
  chats : List (Int × Int) := []
  messages : List (Int × Int) := []

namespace Names

variable (i i' : Int) (names : Names)

/-- The names with those of a new post. -/
def addPost : Names := { names with posts := names.posts ++ [(i, i')] }

/-- The names with those of a new report. -/
def addReport : Names := { names with reports := names.reports ++ [(i, i')] }

/-- The names with those of a new chat. -/
def addChat : Names := { names with chats := names.chats ++ [(i, i')] }

/-- The names with those of a new message. -/
def addMessage : Names := { names with messages := names.messages ++ [(i, i')] }

end Names

/-- No record has two ids in one of the stores, and no id is that of two records of a kind. -/
structure Names.OneToOne (names : Names) : Prop where
  posts : Fostering.OneToOne names.posts
  reports : Fostering.OneToOne names.reports
  chats : Fostering.OneToOne names.chats
  messages : Fostering.OneToOne names.messages

/-- The same cause, though the record that was not found may have an id of its own in each store. -/
inductive Error.Alike (names : Names) : Error → Error → Prop where
  | post {i i' : Int} (refers : Refers names.posts i i') : Alike names (.notFound "Post" i) (.notFound "Post" i')
  | chat {i i' : Int} (refers : Refers names.chats i i') : Alike names (.notFound "Chat" i) (.notFound "Chat" i')
  | message {i i' : Int} (refers : Refers names.messages i i') :
      Alike names (.notFound "Message" i) (.notFound "Message" i')
  | same {e : Error} (other : ∀ entity id, e ≠ .notFound entity id) : Alike names e e

/-! ## Records -/

/-- Rows that differ at most in their ids and dates. -/
structure SameRow {ρ : Type} [HasEntry ρ] (r r' : ρ) : Prop where
  isDeleted : (HasEntry.entry r).isDeleted = (HasEntry.entry r').isDeleted
  rest : HasEntry.setEntry {} r = HasEntry.setEntry {} r'

/-- Reports against the same post that differ at most in their ids and dates. -/
structure Report.Same (posts : List (Int × Int)) (r r' : Report) : Prop where
  post : (r.postId, r'.postId) ∈ posts
  reporterId : r.reporterId = r'.reporterId
  reason : r.reason = r'.reason

/-- Chats with the same members, in any order, that differ at most in their ids and dates. -/
structure ChatWithMembers.Same (c c' : ChatWithMembers) : Prop where
  chat : SameRow c.chat c'.chat
  members : c.memberIds.Perm c'.memberIds

/-- Messages in the same chat that differ at most in their ids and dates. -/
structure Message.Same (chats : List (Int × Int)) (m m' : Message) : Prop where
  chat : (m.chatId, m'.chatId) ∈ chats
  row : SameRow m { m' with chatId := m.chatId }

/-- The same post. -/
def Post.Alike (names : Names) : Post → Post → Prop :=
  Match names.posts (fun p => p.entry.id) (fun p => p.entry.id) SameRow

/-- The same report. -/
def Report.Alike (names : Names) : Report → Report → Prop :=
  Match names.reports Report.id Report.id (Report.Same names.posts)

/-- The same chat. -/
def ChatWithMembers.Alike (names : Names) : ChatWithMembers → ChatWithMembers → Prop :=
  Match names.chats (fun c => c.chat.entry.id) (fun c => c.chat.entry.id) ChatWithMembers.Same

/-- The same message. -/
def Message.Alike (names : Names) : Message → Message → Prop :=
  Match names.messages (fun m => m.entry.id) (fun m => m.entry.id) (Message.Same names.chats)

/-- The same report, and the post stands the same after it. -/
structure ReportReceipt.Alike (names : Names) (r r' : ReportReceipt) : Prop where
  report : r.report.Alike names r'.report
  reportsCount : r.reportsCount = r'.reportsCount
  postStatus : r.postStatus = r'.postStatus

/-- Lists of the same rows, whatever their orders. -/
def ListsAlike {α β : Type} (R : α → β → Prop) (rows : List α) (rows' : List β) : Prop :=
  ∃ reordered, rows.Perm reordered ∧ List.Forall₂ R reordered rows'

/-- Lists that are alike are alike in any weaker sense. -/
theorem ListsAlike.imp {α β : Type} {R S : α → β → Prop} {rows : List α} {rows' : List β}
    (h : ListsAlike R rows rows') (hRS : ∀ r r', R r r' → S r r') : ListsAlike S rows rows' := by
  obtain ⟨reordered, hperm, hmatched⟩ := h
  exact ⟨reordered, hperm, hmatched.imp hRS⟩

section

variable {ρ : Type} [HasEntry ρ] {r r' : ρ}

/-- Rows that match are both live, or neither is. -/
theorem SameRow.isLive_eq (h : SameRow r r') : HasEntry.isLive r = HasEntry.isLive r' := by
  unfold HasEntry.isLive Entry.isLive
  rw [h.isDeleted]

end

end Fostering
