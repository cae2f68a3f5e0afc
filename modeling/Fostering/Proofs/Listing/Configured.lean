import Fostering.Proofs.Listing.Requested

/-!
# Configured orders and requested ones

The order that applies where a client asks for none is configured by a text of the same kind as the texts of
clients. The two readings fill in what is missing at different times and by different defaults, but they agree
on every text: lists that nobody asks to be sorted have the order that they would have for a client who gives
the configured text (`ListOrder.configured_as_requested`).

* `DefaultOrder.read_eq_ok_iff`: which defaults a text configures.
* `ListOrder.forRequest_none_of_mem`, `ListOrder.forRequest_none_of_not_mem`: what the defaults do where
  nothing is asked for.
* `ListOrder.exists_error_of_read`, `ListOrder.exists_error_read`: a text configures nothing exactly if no list has
  an order for it.
-/

namespace Fostering

open SortTerms (Asks)
open Direction (Follows)

/-- What comes to a result comes to no error, and the other way round. -/
theorem exists_error_iff {ε α : Type} {x : Except ε α} : (∃ e, x = .error e) ↔ ¬∃ a, x = .ok a := by
  rcases x with e | a
  · exact ⟨fun _ => nofun, fun _ => ⟨e, rfl⟩⟩
  · exact ⟨nofun, fun h => absurd ⟨a, rfl⟩ h⟩

/-! ## Defaults -/

namespace DefaultOrder

variable {given : String} {d : DefaultOrder}

/-- A text configures a field and a direction. What it leaves out is as if nothing were configured. -/
structure IsConfigured (given : String) (terms : SortTerms) (d : DefaultOrder) : Prop where
  asks : Asks (some given) terms
  field : d.field = if terms.field = "" then fallbackColumn else terms.field
  direction : Follows .standard terms.direction d.direction

/-- **A text is read as the defaults that it configures.** -/
theorem read_eq_ok_iff : read given = .ok d ↔ ∃ terms, IsConfigured given terms d := by
  have hasks (terms : SortTerms) : SortTerms.read given = .ok terms ↔ Asks (some given) terms :=
    @SortTerms.read_eq_ok_iff (some given) terms
  simp only [read, bind_eq_ok_iff, hasks, Direction.readOr_eq_ok_iff, pure, Except.pure, Except.ok.injEq]
  constructor
  · rintro ⟨terms, hterms, direction, hdirection, rfl⟩
    exact ⟨terms, hterms, rfl, hdirection⟩
  · rintro ⟨terms, hterms, hfield, hdirection⟩
    refine ⟨terms, hterms, d.direction, hdirection, ?_⟩
    rw [show standard.field = fallbackColumn from rfl, ← hfield]

end DefaultOrder

/-! ## Lists -/

namespace ListOrder

variable {given : String} {allowed : List String} {d defaults : DefaultOrder} {terms : SortTerms}

/-- Where nothing is asked for, a list is in the configured order. -/
theorem forRequest_none_of_mem (h : d.field ∈ allowed) :
    forRequest none allowed d = .ok ⟨d.field, d.direction⟩ :=
  forRequest_eq_ok_iff.mpr (resolve_eq_ok_iff.mpr ⟨_, .absent, .usual h, .usual⟩)

/-- A list that may not be sorted by the configured field keeps to the configured direction. -/
theorem forRequest_none_of_not_mem (h : d.field ∉ allowed) :
    forRequest none allowed d = .ok ⟨fallbackColumn, d.direction⟩ :=
  forRequest_eq_ok_iff.mpr (resolve_eq_ok_iff.mpr ⟨_, .absent, .fallback h, .usual⟩)

/-- A client who gives the configured text gets the configured order, too. -/
theorem forRequest_some_of_mem (hconfigured : DefaultOrder.IsConfigured given terms d) (h : d.field ∈ allowed) :
    forRequest (some given) allowed .standard = .ok ⟨d.field, d.direction⟩ := by
  refine forRequest_eq_ok_iff.mpr (resolve_eq_ok_iff.mpr ⟨terms, hconfigured.asks, ?_, hconfigured.direction⟩)
  have hfield := hconfigured.field
  by_cases hempty : terms.field = ""
  · rw [if_pos hempty] at hfield
    rw [hfield] at h ⊢
    rw [hempty]
    exact .usual h
  · rw [if_neg hempty] at hfield
    rw [hfield] at h ⊢
    exact .named _ hempty h

/-- A client who asks for a field that the list may not be sorted by is told so, though it may be the
configured one. -/
theorem forRequest_some_of_not_mem (hconfigured : DefaultOrder.IsConfigured given terms d)
    (hfallback : fallbackColumn ∈ allowed) (h : d.field ∉ allowed) (defaults : DefaultOrder) :
    forRequest (some given) allowed defaults =
      .error (.validation (SortError.unknownField d.field allowed).message) := by
  have hfield := hconfigured.field
  by_cases hempty : terms.field = ""
  · rw [if_pos hempty] at hfield
    exact absurd (hfield ▸ hfallback) h
  · rw [if_neg hempty] at hfield
    rw [hfield] at h ⊢
    exact forRequest_eq_error_iff.mpr
      ⟨_, resolve_eq_error_iff.mpr (.unknownField terms hconfigured.asks hempty h), rfl⟩

/-- No list has an order for a text that configures nothing. -/
theorem exists_error_of_read {fault : SortError} (h : DefaultOrder.read given = .error fault)
    (fields : List String) (defaults : DefaultOrder) :
    ∃ cause, forRequest (some given) fields defaults = .error cause := by
  rw [exists_error_iff, exists_forRequest_iff]
  rintro ⟨terms, hasks, -, hdirection⟩
  obtain ⟨direction, hfollows⟩ := Direction.exists_follows_iff.mpr hdirection
  have hread : DefaultOrder.read given =
      .ok ⟨if terms.field = "" then fallbackColumn else terms.field, direction⟩ :=
    DefaultOrder.read_eq_ok_iff.mpr ⟨terms, hasks, rfl, hfollows⟩
  cases h.symm.trans hread

/-- A text that configures defaults can be asked for in a list that may be sorted by the configured field. -/
theorem exists_forRequest_of_read (h : DefaultOrder.read given = .ok d) (defaults : DefaultOrder) :
    ∃ order, forRequest (some given) [fallbackColumn, d.field] defaults = .ok order := by
  obtain ⟨terms, hconfigured⟩ := DefaultOrder.read_eq_ok_iff.mp h
  refine exists_forRequest_iff.mpr
    ⟨terms, hconfigured.asks, ?_, Direction.exists_follows_iff.mp ⟨_, hconfigured.direction⟩⟩
  by_cases hempty : terms.field = ""
  · exact .inl hempty
  · have hfield := hconfigured.field
    rw [if_neg hempty] at hfield
    rw [hfield]
    exact .inr (List.mem_cons_of_mem _ (List.mem_singleton_self _))

/-- A text that no list has an order for configures nothing, and it is enough to know the lists that may be
sorted by the column that every list has. -/
theorem exists_error_read (h : ∀ fields, fallbackColumn ∈ fields →
    ∃ cause, forRequest (some given) fields defaults = .error cause) :
    ∃ fault, DefaultOrder.read given = .error fault := by
  rw [exists_error_iff]
  rintro ⟨d, hread⟩
  obtain ⟨order, horder⟩ := exists_forRequest_of_read hread defaults
  obtain ⟨cause, hcause⟩ := h [fallbackColumn, d.field] List.mem_cons_self
  cases horder.symm.trans hcause

/-- A text means the same for a list, whether it is configured or a client asks for it. -/
structure AgreesAsConfigured (given : String) (allowed : List String) : Prop where
  /-- The defaults have what the text asks for, and otherwise `created_at` and the descending direction. -/
  configured_iff : ∀ d, DefaultOrder.read given = .ok d ↔ ∃ terms, DefaultOrder.IsConfigured given terms d
  /-- Without a request, the order is the one that a client gets for the text. -/
  listed : ∀ d, DefaultOrder.read given = .ok d → d.field ∈ allowed →
    forRequest none allowed d = forRequest (some given) allowed .standard ∧
      forRequest none allowed d = .ok ⟨d.field, d.direction⟩
  /-- If the list may not be sorted by the field, the client gets none, whatever the defaults. -/
  unlisted : ∀ d, DefaultOrder.read given = .ok d → d.field ∉ allowed →
    forRequest none allowed d = .ok ⟨fallbackColumn, d.direction⟩ ∧
      ∀ defaults, forRequest (some given) allowed defaults =
        .error (.validation (SortError.unknownField d.field allowed).message)
  /-- A text that configures nothing is one that no list has an order for. -/
  fails_iff : ∀ defaults, (∃ fault, DefaultOrder.read given = .error fault) ↔
    ∀ fields, ∃ cause, forRequest (some given) fields defaults = .error cause
  /-- Nor has any list that may be sorted by `created_at`. -/
  fails_iff_of_fallback : ∀ defaults, (∃ fault, DefaultOrder.read given = .error fault) ↔
    ∀ fields, fallbackColumn ∈ fields → ∃ cause, forRequest (some given) fields defaults = .error cause

/-- **What is configured is what clients may ask for.** -/
theorem configured_as_requested (given : String) (allowed : List String) (hfallback : fallbackColumn ∈ allowed) :
    AgreesAsConfigured given allowed where
  configured_iff d := DefaultOrder.read_eq_ok_iff
  listed d hread hmem := by
    obtain ⟨terms, hconfigured⟩ := DefaultOrder.read_eq_ok_iff.mp hread
    have hnone := forRequest_none_of_mem hmem
    exact ⟨hnone.trans (forRequest_some_of_mem hconfigured hmem).symm, hnone⟩
  unlisted d hread hmem := by
    obtain ⟨terms, hconfigured⟩ := DefaultOrder.read_eq_ok_iff.mp hread
    exact ⟨forRequest_none_of_not_mem hmem, forRequest_some_of_not_mem hconfigured hfallback hmem⟩
  fails_iff defaults :=
    ⟨fun ⟨_, hfault⟩ fields => exists_error_of_read hfault fields defaults,
      fun hrefused => exists_error_read fun fields _ => hrefused fields⟩
  fails_iff_of_fallback defaults :=
    ⟨fun ⟨_, hfault⟩ fields _ => exists_error_of_read hfault fields defaults, exists_error_read⟩

/-- Posts have no grade, so a grade can be configured for them, but not asked for. -/
theorem configured_as_requested_grade : fallbackColumn ∈ Post.sortFields ∧
    DefaultOrder.read " grade : ASC" = .ok ⟨"grade", .asc⟩ ∧ "grade" ∉ Post.sortFields ∧
    AgreesAsConfigured " grade : ASC" Post.sortFields := by
  have hfallback : fallbackColumn ∈ Post.sortFields := by decide
  exact ⟨hfallback, by decide +kernel, by decide, configured_as_requested " grade : ASC" Post.sortFields hfallback⟩

end ListOrder

end Fostering
