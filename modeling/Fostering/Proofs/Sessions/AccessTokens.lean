import Fostering.Proofs.Sessions.Lifetimes

/-!
# How long access tokens are good

Nobody keeps a list of access tokens. What was put into one is what is read out of it, whatever numbers
stand in it, and from its end on only the minute counts by which clocks may differ.

* `Token.admits_of_le`, `Token.isSpent_of_lt`: signed tokens up to their end, and after it.
* `Token.exists_issue`: which tokens can be made.
* `Token.issue_lasts`: a token that is made now, at every later time and at every earlier one.
-/

namespace Fostering.Token

/-- Whoever shows the token now is the user that it was made for. -/
structure Admits (secret : String) (now : Instant) (token : String) (c : Claims) : Prop where
  read : validate secret now token = .ok c
  caller : ∀ incoming : Incoming, incoming.header? "authorization" = some ("Bearer " ++ token) →
    Caller.authenticate secret now incoming = .ok ⟨c.sub, c.moderator⟩

/-- The token has run out, and nobody is let in for it. -/
structure IsSpent (secret : String) (now : Instant) (token : String) : Prop where
  read : validate secret now token = .error .expired
  caller : ∀ incoming : Incoming, incoming.header? "authorization" = some ("Bearer " ++ token) →
    Caller.authenticate secret now incoming = .error .token

section

variable {c : Claims} {now : Instant}

/-- A token is accepted up to a minute after its end. -/
theorem verdict_of_le (hdated : 0 ≤ c.exp) (hnow : now.seconds ≤ c.exp + 60) : verdict now c = .ok c := by
  have hcurrent : ¬c.exp < now.seconds - leeway := by
    unfold leeway
    omega
  unfold verdict
  rw [if_neg (by omega), if_neg hcurrent]

/-- After that minute it has expired. -/
theorem verdict_of_lt (hdated : 0 ≤ c.exp) (hnow : c.exp + 60 < now.seconds) :
    verdict now c = .error .expired := by
  have hpast : c.exp < now.seconds - leeway := by
    unfold leeway
    omega
  unfold verdict
  rw [if_neg (by omega), if_pos hpast]

/-- A fault of the token that is shown is all that its bearer learns. -/
theorem authenticate_of_fault {secret token : String} {incoming : Incoming} {fault : Fault}
    (hshown : Caller.shownToken incoming = .ok token) (hfault : validate secret now token = .error fault) :
    Caller.authenticate secret now incoming = .error .token := by
  unfold Caller.authenticate
  simp only [hshown, bind, Except.bind, hfault]

/-- Signed tokens are good up to their end and the minute after it. -/
theorem admits_of_le (secret : String) (hfits : c.Fits) (hdated : 0 ≤ c.exp)
    (hnow : now.seconds ≤ c.exp + 60) : Admits secret now (sign secret c) c := by
  have hread : validate secret now (sign secret c) = .ok c :=
    (validate_sign_eq secret now hfits).trans (verdict_of_le hdated hnow)
  exact ⟨hread, fun incoming hheader => Caller.authenticate_of_validate
    (Caller.shownToken_eq hheader fun _ => Caller.isHeaderChar_of_mem_sign) hread⟩

/-- From then on they have run out. -/
theorem isSpent_of_lt (secret : String) (hfits : c.Fits) (hdated : 0 ≤ c.exp)
    (hnow : c.exp + 60 < now.seconds) : IsSpent secret now (sign secret c) := by
  have hread : validate secret now (sign secret c) = .error .expired :=
    (validate_sign_eq secret now hfits).trans (verdict_of_lt hdated hnow)
  exact ⟨hread, fun incoming hheader => authenticate_of_fault
    (Caller.shownToken_eq hheader fun _ => Caller.isHeaderChar_of_mem_sign) hread⟩

end

section

variable {config : TokenConfig} {now : Instant} {user : Int}

/-- Once the clock has begun, the seconds of a lifetime fit if those of its end do. -/
theorem exists_issue (random : Bytes) (moderator : Bool) (hnow : 0 ≤ now.seconds)
    (hclock : Lifetime.fitsClock now.seconds = true) (hdated : 0 ≤ now.seconds + 60 * config.accessMins)
    (hend : Lifetime.fitsClock (now.seconds + 60 * config.accessMins) = true) :
    issue config now random user moderator =
      .ok (sign config.secret (claimsAt config now random user moderator)) := by
  have hfits {n : Int} : Lifetime.fitsClock n = true ↔ -(2 ^ 63) ≤ n ∧ n < 2 ^ 63 := by
    unfold Lifetime.fitsClock
    rw [Bool.and_eq_true, decide_eq_true_eq, decide_eq_true_eq]
  rw [hfits] at hclock hend
  refine issue_eq_ok_iff.mpr ⟨hfits.mpr ?_, hfits.mpr ?_, rfl⟩
  · omega
  · omega

/-- **A token is made for everybody, and it is read as it was made until a minute after its end.** Until then
its bearer is the user that it was made for, with the same rights; from then on it has run out. -/
theorem issue_lasts (random : Bytes) (moderator : Bool) (huser : Json.Width.w64.fits user = true)
    (hclock : Lifetime.fitsClock now.seconds = true) (hdated : 0 ≤ now.seconds + 60 * config.accessMins)
    (hend : Lifetime.fitsClock (now.seconds + 60 * config.accessMins) = true) :
    (0 ≤ now.seconds → ∃ token, issue config now random user moderator = .ok token) ∧
    ∀ token, issue config now random user moderator = .ok token →
      ∃ c : Claims,
        c = ⟨user, moderator, now.seconds + 60 * config.accessMins, now.seconds, Uuid.text random⟩ ∧
        ∀ later : Instant, (later.seconds ≤ c.exp + 60 → Admits config.secret later token c) ∧
          (c.exp + 60 < later.seconds → IsSpent config.secret later token) := by
  let c : Claims := claimsAt config now random user moderator
  have hexp : c.exp = now.seconds + 60 * config.accessMins := by
    rw [Int.mul_comm]
    rfl
  have hfits : c.Fits := ⟨huser, hexp ▸ fits_of_fitsClock hend, fits_of_fitsClock hclock⟩
  refine ⟨fun hnow => ⟨_, exists_issue random moderator hnow hclock hdated hend⟩, fun token hissue => ?_⟩
  obtain ⟨-, -, rfl⟩ := issue_eq_ok_iff.mp hissue
  refine ⟨c, ?_, fun later =>
    ⟨admits_of_le config.secret hfits (hexp ▸ hdated), isSpent_of_lt config.secret hfits (hexp ▸ hdated)⟩⟩
  rw [← hexp]
  rfl

end

/-- A token of a quarter of an hour that Anna gets a minute after the clock has begun is good in the second
1020 and has run out in the next one. -/
theorem issue_lasts_anna :
    ∃ token, issue ⟨"secret", 15, 30⟩ ⟨60, 0⟩ [] 1 false = .ok token ∧
      Admits "secret" ⟨1020, 999999999⟩ token ⟨1, false, 960, 60, Uuid.text []⟩ ∧
      IsSpent "secret" ⟨1021, 0⟩ token := by
  obtain ⟨hmade, hgood⟩ :=
    @issue_lasts ⟨"secret", 15, 30⟩ ⟨60, 0⟩ 1 [] false (by decide) (by decide) (by decide) (by decide)
  obtain ⟨token, htoken⟩ := hmade (by decide)
  obtain ⟨c, rfl, hlasts⟩ := hgood token htoken
  exact ⟨token, htoken, (hlasts ⟨1020, 999999999⟩).1 (by decide), (hlasts ⟨1021, 0⟩).2 (by decide)⟩

end Fostering.Token
