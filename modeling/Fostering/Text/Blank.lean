/-!
# Blank characters and trimming

`isBlank` is Unicode's property `White_Space`, and `trim` takes a text's blanks off both ends.

* `isBlank_of_isWhitespace`: every character of core's smaller class is blank;
* `trimLeft_eq_nil_iff`: trimming leaves nothing exactly when every character is blank;
* `trimsTo_iff`: trimming leaves the one text without blanks at its ends around which there are only blanks.
-/

namespace Fostering.Text

/-- Unicode's property `White_Space`. -/
def isBlank (c : Char) : Bool :=
  let n := c.toNat
  (0x09 ≤ n && n ≤ 0x0D) || n == 0x20 || n == 0x85 || n == 0xA0 || n == 0x1680 ||
    (0x2000 ≤ n && n ≤ 0x200A) || n == 0x2028 || n == 0x2029 || n == 0x202F || n == 0x205F ||
    n == 0x3000

/-- Core's notion of white space is a part of this one. -/
theorem isBlank_of_isWhitespace {c : Char} (h : c.isWhitespace = true) : isBlank c = true := by
  simp only [Char.isWhitespace, Bool.or_eq_true, decide_eq_true_eq] at h
  rcases h with ((h | h) | h) | h <;> subst h <;> decide

/-- The characters after the leading blanks. -/
def trimLeft (cs : List Char) : List Char := cs.dropWhile isBlank

/-- The characters without the blanks at either end. -/
def trimChars (cs : List Char) : List Char :=
  (trimLeft (trimLeft cs).reverse).reverse

/-- A text without the blanks at either end. -/
def trim (s : String) : String := String.ofList (trimChars s.toList)

/-- Trimming leaves nothing exactly when there is nothing but blanks. -/
theorem trimLeft_eq_nil_iff (cs : List Char) :
    trimLeft cs = [] ↔ ∀ c ∈ cs, isBlank c = true := by
  induction cs with
  | nil => simp [trimLeft]
  | cons c cs ih =>
    unfold trimLeft at ih ⊢
    by_cases h : isBlank c = true <;> simp [h, ih]

/-- A character of the seven-bit set that separates tokens: tab, line feed, form feed, carriage
return and space. -/
def isAsciiBlank (b : UInt8) : Bool :=
  b == 0x09 || b == 0x0A || b == 0x0C || b == 0x0D || b == 0x20

/-! ## What trimming leaves -/

section

variable {cs core before after : List Char}

/-- There is nothing but blanks. -/
def AllBlank (cs : List Char) : Prop := ∀ c ∈ cs, isBlank c = true

theorem allBlank_nil : AllBlank [] := nofun

theorem AllBlank.reverse (h : AllBlank cs) : AllBlank cs.reverse := fun c hc => h c (List.mem_reverse.mp hc)

/-- No blank stands at either end. -/
structure IsTrimmed (cs : List Char) : Prop where
  head : ∀ c ∈ cs.head?, isBlank c = false
  last : ∀ c ∈ cs.getLast?, isBlank c = false

theorem isTrimmed_nil : IsTrimmed [] := ⟨nofun, nofun⟩

/-- Where no blank is, none is at an end. -/
theorem isTrimmed_of_forall (h : ∀ c ∈ cs, isBlank c = false) : IsTrimmed cs :=
  ⟨fun c hc => h c (List.mem_of_mem_head? hc), fun c hc => h c (List.mem_of_mem_getLast? hc)⟩

/-- Of a text between two others, only their outer ends count. -/
theorem IsTrimmed.append {left right : List Char} (hleft : IsTrimmed left) (hright : IsTrimmed right)
    (hleftNe : left ≠ []) (hrightNe : right ≠ []) (middle : List Char) :
    IsTrimmed (left ++ middle ++ right) := by
  constructor
  · obtain ⟨first, rest, rfl⟩ := List.exists_cons_of_ne_nil hleftNe
    exact hleft.head
  · rcases hlast : right.getLast? with _ | last
    · exact absurd (List.getLast?_eq_none_iff.mp hlast) hrightNe
    · rw [List.getLast?_append, hlast]
      exact fun c hc => hright.last c (hlast.trans hc)

/-- A text is a trimmed one with blanks around it. -/
inductive TrimsTo : List Char → List Char → Prop where
  | intro (before core after : List Char) (hbefore : AllBlank before) (hcore : IsTrimmed core)
      (hafter : AllBlank after) : TrimsTo (before ++ core ++ after) core

theorem IsTrimmed.trimsTo_self (h : IsTrimmed core) : TrimsTo core core := by
  simpa using TrimsTo.intro [] core [] allBlank_nil h allBlank_nil

/-! ## Blanks at the beginning -/

/-- Blanks before a text are taken off. -/
theorem trimLeft_append (h : AllBlank before) (cs : List Char) : trimLeft (before ++ cs) = trimLeft cs :=
  List.dropWhile_append_of_pos h

/-- A text that begins with no blank is left as it is. -/
theorem trimLeft_of_head (h : ∀ c ∈ cs.head?, isBlank c = false) : trimLeft cs = cs := by
  cases cs with
  | nil => rfl
  | cons c rest => exact List.dropWhile_cons_of_neg (Bool.eq_false_iff.mp (h c rfl))

/-- What is left begins with no blank. -/
theorem head_trimLeft (cs : List Char) : ∀ c ∈ (trimLeft cs).head?, isBlank c = false := by
  intro c hc
  have hhead := List.head?_dropWhile_not isBlank cs
  rw [show (cs.dropWhile isBlank).head? = some c from hc] at hhead
  exact hhead

/-- What is taken off is blank. -/
theorem exists_eq_append_trimLeft (cs : List Char) :
    ∃ before, AllBlank before ∧ cs = before ++ trimLeft cs :=
  ⟨cs.takeWhile isBlank, List.all_eq_true.mp List.all_takeWhile, List.takeWhile_append_dropWhile.symm⟩

/-! ## Blanks at both ends -/

/-- Trimming leaves a trimmed text and takes blanks away. -/
theorem trimsTo_trimChars (cs : List Char) : TrimsTo cs (trimChars cs) := by
  obtain ⟨before, hbefore, hcs⟩ := exists_eq_append_trimLeft cs
  obtain ⟨after, hafter, hreverse⟩ := exists_eq_append_trimLeft (trimLeft cs).reverse
  have hrest : trimLeft cs = trimChars cs ++ after.reverse := by
    have hback := congrArg List.reverse hreverse
    rwa [List.reverse_reverse, List.reverse_append] at hback
  have htrimmed : IsTrimmed (trimChars cs) := by
    constructor
    · intro c hc
      refine head_trimLeft cs c ?_
      rw [hrest, List.head?_append, Option.mem_def.mp hc]
      rfl
    · intro c hc
      refine head_trimLeft (trimLeft cs).reverse c ?_
      rwa [trimChars, List.getLast?_reverse] at hc
  have hwhole : cs = before ++ trimChars cs ++ after.reverse := by
    rw [List.append_assoc, ← hrest]
    exact hcs
  have htrims := TrimsTo.intro before (trimChars cs) after.reverse hbefore htrimmed hafter.reverse
  rwa [← hwhole] at htrims

/-- Trimming finds the text without blanks at its ends. -/
theorem TrimsTo.trimChars_eq (h : TrimsTo cs core) : trimChars cs = core := by
  obtain ⟨before, core, after, hbefore, hcore, hafter⟩ := h
  rw [trimChars, List.append_assoc, trimLeft_append hbefore]
  cases core with
  | nil =>
      have hnothing : trimLeft after = [] := (trimLeft_eq_nil_iff after).mpr hafter
      rw [List.nil_append, hnothing]
      rfl
  | cons c rest =>
      -- the first character stays, so the blanks behind are reached from the other end only
      have hleft : trimLeft (c :: rest ++ after) = c :: rest ++ after := trimLeft_of_head hcore.head
      have hright : trimLeft (c :: rest).reverse = (c :: rest).reverse := by
        refine trimLeft_of_head fun d hd => hcore.last d ?_
        rwa [List.head?_reverse] at hd
      rw [hleft, List.reverse_append, trimLeft_append hafter.reverse, hright, List.reverse_reverse]

/-- **A text is a trimmed one with blanks around it in one way only, and trimming finds it.** -/
theorem trimsTo_iff : TrimsTo cs core ↔ trimChars cs = core :=
  ⟨TrimsTo.trimChars_eq, fun h => h ▸ trimsTo_trimChars cs⟩

end

end Fostering.Text
