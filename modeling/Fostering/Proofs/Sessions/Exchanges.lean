import Fostering.Proofs.Sessions.Credentials
import Fostering.Proofs.Sessions.Refinement

/-!
# Every refresh token is good once

Runs of visits, as long as fresh refresh tokens differ, digests tell refresh tokens apart and
lifetimes have ends (`Visit.ArePlausible`). The tokens that devices hold were made in the run, and
none is held twice (`World.IsSound`). So a token that has been superseded, cleared or presented is
held by no device any more, and as no visit makes it again it stays gone.

* `World.isSound_run`: what holds all along a run.
* `World.old_of_run`: a token that is held was made in the run, or was held before.
* `World.sessions_refine_devices`: sessions do what the machine does.
-/

namespace Fostering

/-- The refresh tokens of visits, as far as they give any out. -/
def Visit.made (visits : List Visit) : List String := visits.filterMap Visit.drawn?

/-- The refresh tokens that visits make or present. -/
def Visit.known (visits : List Visit) : List String :=
  Visit.made visits ++ visits.filterMap Visit.presented?

/-- What is taken for granted of visits. -/
structure Visit.ArePlausible (config : TokenConfig) (visits : List Visit) : Prop where
  /-- Fresh refresh tokens differ. -/
  fresh : (Visit.made visits).Nodup
  /-- Their digests tell refresh tokens apart. -/
  digests : ∀ s ∈ Visit.known visits, ∀ t ∈ Visit.known visits, refreshDigest s = refreshDigest t → s = t
  /-- Where tokens are asked for, their lifetimes have ends. -/
  lasts : ∀ v ∈ visits, v.drawn?.isSome = true → Logins.Lasts config v.now

namespace Visit

variable {config : TokenConfig} {v : Visit} {before later visits : List Visit}

/-- What is made over a run is made over its parts. -/
theorem made_append (visits visits' : List Visit) : made (visits ++ visits') = made visits ++ made visits' :=
  List.filterMap_append

/-- Tokens that were made are known. -/
theorem mem_known_of_made {token : String} (h : token ∈ made before) (later : List Visit) :
    token ∈ known (before ++ later) := by
  refine List.mem_append_left _ ?_
  rw [made_append]
  exact List.mem_append_left _ h

/-- A token that is presented is known. -/
theorem mem_known_of_presented {token : String} (h : v.presented? = some token) :
    token ∈ known (before ++ v :: later) := by
  refine List.mem_append_right _ (List.mem_filterMap.mpr ⟨v, ?_, h⟩)
  exact List.mem_append_right _ List.mem_cons_self

/-- A token that is drawn is known. -/
theorem mem_known_of_drawn {token : String} (h : v.drawn? = some token) :
    token ∈ known (before ++ v :: later) := by
  refine List.mem_append_left _ (List.mem_filterMap.mpr ⟨v, ?_, h⟩)
  exact List.mem_append_right _ List.mem_cons_self

/-- A token that a visit makes was not made before, and is not made again. -/
theorem ArePlausible.not_mem (h : ArePlausible config (before ++ later)) {token : String}
    (hmade : token ∈ made before) : token ∉ made later := by
  have hfresh := h.fresh
  rw [made_append] at hfresh
  exact fun hlater => (List.nodup_append.mp hfresh).2.2 token hmade token hlater rfl

/-- Whoever asks for tokens for a device draws one. -/
theorem drawn?_of_fingerprint? {fingerprint : String} (h : v.fingerprint? = some fingerprint) :
    v.drawn? = some v.drawn := by
  unfold fingerprint? at h
  unfold drawn?
  rcases hask : v.ask with request | request | request | ⟨userId, fingerprint⟩ | ⟨actor, id⟩ | id <;>
    simp only [hask] at h ⊢ <;> cases h

/-- Tokens that a visit gives out come with its fresh refresh token. -/
theorem refreshToken_of_tokens? {db : Database} {tokens : AuthTokens}
    (h : v.tokens? config db = some tokens) : tokens.refreshToken = v.drawn := by
  unfold tokens? answer? exec at h
  rcases hask : v.ask with request | request | request | ⟨userId, fingerprint⟩ | ⟨actor, id⟩ | id <;>
    simp only [hask, Option.bind_none, reduceCtorEq] at h
  case login =>
    rcases Logins.login_cases config v.random request v.now db with
      ⟨answer, heq, hanswer⟩ | ⟨user, -, -, -, -, heq⟩
    · simp only [heq, Prod.map, Option.bind_some, hanswer, reduceCtorEq] at h
    · simp only [heq, Prod.map, Option.bind_some] at h
      exact Logins.refreshToken_of_issue h
  case refresh =>
    rcases Logins.refresh_cases config v.random request v.now db with
      ⟨-, heq⟩ | ⟨r, -, -, ⟨-, heq⟩ | ⟨-, -, heq⟩ | ⟨-, user, -, -, -, heq⟩⟩
    case inr.inr.inr =>
      simp only [heq, Prod.map, Option.bind_some] at h
      exact Logins.refreshToken_of_issue h
    all_goals
      simp only [heq, Prod.map, Option.bind_some] at h
      cases h

end Visit

namespace World

variable {config : TokenConfig} {w : World} {v : Visit} {before later : List Visit}

/-! ## Along a run -/

/-- What holds of the world after visits. -/
structure IsSound (visits : List Visit) (w : World) : Prop where
  kept : w.devices.AreKept w.db
  made : ∀ key t, w.devices key = some t → t.token ∈ Visit.made visits
  apart : w.ToldApart

/-- Without sessions all devices are empty. -/
theorem isSound_start {db : Database} (hnone : db.tables.sessions = []) : (start db).IsSound [] := by
  have hrow : ∀ r, r ∉ db.tables.sessions := by
    intro r
    rw [hnone]
    exact List.not_mem_nil
  have hkept : db.IsKept :=
    ⟨fun r hr => absurd hr (hrow r), fun r hr => absurd hr (hrow r), fun r hr => absurd hr (hrow r),
      fun r hr => absurd hr (hrow r)⟩
  have hticket : ∀ key t, (start db).devices key ≠ some t := fun key t h => nomatch h
  exact ⟨⟨hkept, fun r hr => absurd hr (hrow r), fun u f t ht => absurd ht (hticket (u, f) t)⟩,
    fun key t ht => absurd ht (hticket key t), fun key _ t _ ht => absurd ht (hticket key t)⟩

/-- Digests tell the token that is presented from those that are held. -/
theorem IsSound.tells (h : w.IsSound before) (hall : Visit.ArePlausible config (before ++ v :: later)) :
    ∀ token ∈ v.presented?, w.devices.Tells token := by
  intro token htoken key t ht heq
  refine hall.digests t.token ?_ token ?_ heq
  · exact Visit.mem_known_of_made (h.made key t ht) (v :: later)
  · exact Visit.mem_known_of_presented htoken

/-- The token that is made has another digest than those that are held. -/
theorem IsSound.digest_ne (h : w.IsSound before)
    (hall : Visit.ArePlausible config (before ++ v :: later)) (hdrawn : v.drawn? = some v.drawn) :
    ∀ key t, w.devices key = some t → refreshDigest t.token ≠ refreshDigest v.drawn := by
  intro key t ht heq
  have hmade := h.made key t ht
  have hsame := hall.digests t.token (Visit.mem_known_of_made hmade (v :: later)) v.drawn
    (Visit.mem_known_of_drawn hdrawn) heq
  refine hall.not_mem hmade (List.mem_filterMap.mpr ⟨v, List.mem_cons_self, ?_⟩)
  rw [hdrawn, hsame]

/-- A token that is held after a visit was held before, or it was made then for the device. -/
theorem old_of_step {key : Int × String} {t : Ticket} (h : (w.step config v).devices key = some t) :
    w.devices key = some t ∨ ∃ fingerprint ∈ v.fingerprint?, ∃ tokens ∈ v.tokens? config w.db,
      key = (tokens.user.entry.id, fingerprint) ∧ t.token = v.drawn := by
  rcases Devices.old_of_next h with h | ⟨fingerprint, hfingerprint, tokens, htokens, hkey, htoken⟩
  · exact .inl h
  · refine .inr ⟨fingerprint, hfingerprint, tokens, htokens, hkey, ?_⟩
    exact htoken.trans (Visit.refreshToken_of_tokens? htokens)

/-- A visit keeps things as they should be. -/
theorem IsSound.step (h : w.IsSound before) (hall : Visit.ArePlausible config (before ++ v :: later)) :
    (w.step config v).IsSound (before ++ [v]) := by
  have hdrawn {fingerprint : String} (hprint : v.fingerprint? = some fingerprint) :
      v.drawn ∉ Visit.made before := by
    intro hmade
    have hv := Visit.drawn?_of_fingerprint? hprint
    exact hall.not_mem hmade (List.mem_filterMap.mpr ⟨v, List.mem_cons_self, hv⟩)
  -- three invariants: tickets are kept as rows, every token was drawn before, and no two are alike
  refine ⟨areKept_step h.kept (h.tells hall), ?_, ?_⟩
  · intro key t ht
    rw [Visit.made_append]
    rcases old_of_step ht with hold | ⟨fingerprint, hprint, -, -, -, htoken⟩
    · exact List.mem_append_left _ (h.made key t hold)
    · rw [htoken]
      have hv := Visit.drawn?_of_fingerprint? hprint
      exact List.mem_append_right _ (List.mem_filterMap.mpr ⟨v, List.mem_singleton_self v, hv⟩)
  · intro key key' t t' ht ht' hsame
    rcases old_of_step ht with hold | ⟨fingerprint, hprint, tokens, htokens, hkey, htoken⟩
    · rcases old_of_step ht' with hold' | ⟨_, hprint', -, -, -, htoken'⟩
      · exact h.apart key key' t t' hold hold' hsame
      · have hmade := h.made key t hold
        rw [hsame, htoken'] at hmade
        exact absurd hmade (hdrawn hprint')
    · rcases old_of_step ht' with hold' | ⟨_, hprint', tokens', htokens', hkey', -⟩
      · have hmade := h.made key' t' hold'
        rw [← hsame, htoken] at hmade
        exact absurd hmade (hdrawn hprint)
      · rw [Option.mem_def.mp htokens] at htokens'
        rw [Option.mem_def.mp hprint] at hprint'
        cases htokens'
        cases hprint'
        exact hkey.trans hkey'.symm

/-- **Sessions are the tokens of devices all along a run, and no token is held twice.** -/
theorem isSound_run {db : Database} (hnone : db.tables.sessions = [])
    (hall : Visit.ArePlausible config (before ++ later)) :
    ((start db).run config before).IsSound before := by
  induction before using List.reverseRecOn generalizing later with
  | nil => exact isSound_start hnone
  | append_singleton before v ih =>
      rw [List.append_assoc] at hall
      rw [run_append]
      exact (ih hall).step hall

/-- A token that is held after a run was made in it, or was held before. -/
theorem old_of_run {visits : List Visit} {key : Int × String} {t : Ticket}
    (h : (w.run config visits).devices key = some t) (hnew : t.token ∉ Visit.made visits) :
    w.devices key = some t := by
  induction visits generalizing w with
  | nil => exact h
  | cons v visits ih =>
      have hrest : t.token ∉ Visit.made visits := by
        intro hmade
        refine hnew ?_
        rw [← List.singleton_append, Visit.made_append]
        exact List.mem_append_right _ hmade
      rcases old_of_step (ih h hrest) with hold | ⟨fingerprint, hprint, -, -, -, htoken⟩
      · exact hold
      · have hv := Visit.drawn?_of_fingerprint? hprint
        rw [htoken] at hnew
        exact absurd (List.mem_filterMap.mpr ⟨v, List.mem_cons_self, hv⟩) hnew

/-! ## What the machine does -/

/-- The token that a visit gives out for a device. -/
def fresh (config : TokenConfig) (v : Visit) : Ticket :=
  ⟨v.drawn, (v.now.addSeconds (config.refreshDays * 86400)).stored⟩

/-- Tokens that a visit gives out come with the fresh one. -/
theorem give_tokens {tokens : AuthTokens} (htokens : v.tokens? config w.db = some tokens)
    (fingerprint : String) (d : Devices) : d.give config v.now fingerprint (some tokens) =
      d.put (tokens.user.entry.id, fingerprint) (fresh config v) := by
  unfold fresh
  rw [← Visit.refreshToken_of_tokens? htokens]
  rfl

/-- A visit is what the machine says it is. -/
structure Obeys (config : TokenConfig) (w : World) (v : Visit) : Prop where
  /-- Who logs in gets a token for the device, in the place of the one before. -/
  login : ∀ request tokens, v.ask = .login request → v.tokens? config w.db = some tokens →
    tokens.refreshToken = v.drawn ∧ (w.step config v).devices =
      w.devices.put (tokens.user.entry.id, request.fingerprint) (fresh config v)
  /-- A token that is held for a live user and the device is exchanged: the user gets tokens, with
  the role that is stored, and the new token takes the place of the old one. -/
  exchanged : ∀ request user, v.ask = .refresh request → w.Grants v.now request user →
    (∃ user', user'.entry.id = user.entry.id ∧ w.Grants v.now request user' ∧ ∃ accessToken,
      Token.issue config v.now v.random user'.entry.id user'.isModerator = .ok accessToken ∧
      v.answer? config w.db =
        some (.ok (.ok ⟨accessToken, v.drawn, config.accessMins * 60, user'⟩))) ∧
    (w.step config v).devices = w.devices.put (user.entry.id, request.fingerprint) (fresh config v)
  /-- Nobody gets tokens for any other token. -/
  refused : ∀ request, v.ask = .refresh request → (∀ user, ¬w.Grants v.now request user) →
    w.TurnsAway config v
  /-- If it is held by a device, that is cleared. -/
  cleared : ∀ request key t, v.ask = .refresh request → (∀ user, ¬w.Grants v.now request user) →
    w.devices key = some t → t.token = request.refreshToken → t.isCurrent v.now = true →
    (w.step config v).devices = w.devices.clear key
  /-- Otherwise nothing changes. -/
  untouched : ∀ request, v.ask = .refresh request →
    (∀ key t, w.devices key = some t → ¬(t.token = request.refreshToken ∧ t.isCurrent v.now = true)) →
    (w.step config v).devices = w.devices
  /-- Who logs out clears the device. -/
  logout : ∀ userId fingerprint, v.ask = .logout userId fingerprint →
    (w.step config v).devices = w.devices.clear (userId, fingerprint)

/-- Nothing is given out to who is turned away. -/
theorem TurnsAway.tokens?_eq_none (h : w.TurnsAway config v) : v.tokens? config w.db = none := by
  obtain ⟨message, h⟩ := h
  unfold Visit.tokens?
  rw [h]
  rfl

/-- An exchange revokes the token that is presented, and gives out another if it succeeds. -/
theorem devices_step_of_refresh {request : RefreshRequest} (hask : v.ask = .refresh request) :
    (w.step config v).devices = (w.devices.revoke request.refreshToken v.now).give config v.now
      request.fingerprint (v.tokens? config w.db) := by
  unfold step Devices.next
  simp only [hask]

/-- An exchange that is turned away revokes the token that is presented, and no more. -/
theorem devices_step_of_turnsAway {request : RefreshRequest} (hask : v.ask = .refresh request)
    (haway : w.TurnsAway config v) :
    (w.step config v).devices = w.devices.revoke request.refreshToken v.now := by
  rw [devices_step_of_refresh hask, haway.tokens?_eq_none]
  rfl

/-- An exchange presents its token. -/
theorem presented?_of_refresh {request : RefreshRequest} (hask : v.ask = .refresh request) :
    v.presented? = some request.refreshToken := by
  unfold Visit.presented?
  rw [hask]

/-- An exchange draws a token, whether or not it is given out. -/
theorem drawn?_of_refresh {request : RefreshRequest} (hask : v.ask = .refresh request) :
    v.drawn? = some v.drawn := by
  unfold Visit.drawn?
  rw [hask]

/-- What nobody has been granted is refused. -/
theorem IsSound.turnsAway (h : w.IsSound before)
    (hall : Visit.ArePlausible config (before ++ v :: later)) {request : RefreshRequest}
    (hask : v.ask = .refresh request) (hnot : ∀ user, ¬w.Grants v.now request user) :
    w.TurnsAway config v :=
  turnsAway_of_not_grants h.kept (h.tells hall _ (presented?_of_refresh hask)) hask hnot

/-- The token that is held for a device is gone from there and from nowhere else. -/
theorem IsSound.revoke_eq_clear (h : w.IsSound before) {key : Int × String} {t : Ticket} {token : String}
    {now : Instant} (ht : w.devices key = some t) (htoken : t.token = token)
    (hcurrent : t.isCurrent now = true) : w.devices.revoke token now = w.devices.clear key :=
  Devices.revoke_of_held ht htoken hcurrent fun key' t' ht' htoken' =>
    h.apart key' key t' t ht' ht (htoken'.trans htoken.symm)

/-- **A visit to a world that is as it should be does what the machine does.** -/
theorem IsSound.obeys (h : w.IsSound before)
    (hall : Visit.ArePlausible config (before ++ v :: later)) : w.Obeys config v where
  login request tokens hask htokens := by
    refine ⟨Visit.refreshToken_of_tokens? htokens, ?_⟩
    unfold World.step Devices.next
    simp only [hask, htokens]
    exact give_tokens htokens request.fingerprint w.devices
  exchanged request user hask hgrants := by
    have htells := h.tells hall _ (presented?_of_refresh hask)
    have hdrawn := drawn?_of_refresh hask
    have hlasts : Logins.Lasts config v.now := by
      refine hall.lasts v (List.mem_append_right _ List.mem_cons_self) ?_
      rw [hdrawn]
      rfl
    have hanswer := answer?_of_grants h.kept h.apart htells hlasts (h.digest_ne hall hdrawn) hask hgrants
    refine ⟨hanswer, ?_⟩
    obtain ⟨user', hid, -, accessToken, -, hanswer⟩ := hanswer
    obtain ⟨-, -, t, ht, htoken, hcurrent⟩ := hgrants
    have htokens : v.tokens? config w.db =
        some ⟨accessToken, v.drawn, config.accessMins * 60, user'⟩ := by
      unfold Visit.tokens?
      rw [hanswer]
      rfl
    rw [devices_step_of_refresh hask, htokens, h.revoke_eq_clear ht htoken hcurrent,
      give_tokens htokens]
    simp only [hid]
    exact Devices.put_clear
  refused request hask hnot := h.turnsAway hall hask hnot
  cleared request key t hask hnot ht htoken hcurrent := by
    rw [devices_step_of_turnsAway hask (h.turnsAway hall hask hnot)]
    exact h.revoke_eq_clear ht htoken hcurrent
  untouched request hask hnone := by
    have hnot (user : User) : ¬w.Grants v.now request user := by
      rintro ⟨-, -, t, ht, hpresented⟩
      exact hnone _ t ht hpresented
    rw [devices_step_of_turnsAway hask (h.turnsAway hall hask hnot)]
    exact Devices.revoke_of_not_held hnone
  logout userId fingerprint hask := by
    unfold World.step Devices.next
    simp only [hask]

/-! ## Tokens that are gone -/

/-- A visit ends the token of a device: tokens are given out for the device, the device is cleared,
or the token is presented, before it runs out or at least not after `later`. -/
def Ends (config : TokenConfig) (w : World) (v : Visit) (key : Int × String) (t : Ticket)
    (later : Instant) : Prop :=
  (v.fingerprint? = some key.2 ∧ ∃ tokens ∈ v.tokens? config w.db, tokens.user.entry.id = key.1) ∨
    v.ask = .logout key.1 key.2 ∨
    v.presented? = some t.token ∧ (t.isCurrent v.now = true ∨ later.stored.before v.now.stored = false)

/-- The device for which tokens are given out holds the fresh one. -/
theorem devices_step_of_tokens {tokens : AuthTokens} {fingerprint : String}
    (hprint : v.fingerprint? = some fingerprint) (htokens : v.tokens? config w.db = some tokens) :
    (w.step config v).devices (tokens.user.entry.id, fingerprint) = some (fresh config v) := by
  have hgive (d : Devices) : d.give config v.now fingerprint (some tokens)
      (tokens.user.entry.id, fingerprint) = some (fresh config v) := by
    rw [give_tokens htokens]
    exact Devices.mem_put.mpr (.inl ⟨rfl, rfl⟩)
  unfold Visit.fingerprint? at hprint
  unfold step Devices.next
  rcases hask : v.ask with request | request | request | ⟨userId, fingerprint⟩ | ⟨actor, id⟩ | id <;>
    simp only [hask, reduceCtorEq] at hprint
  all_goals
    cases hprint
    simp only [htokens]
    exact hgive _

/-- A token that was presented before it ran out is held no more, unless it was made at that. -/
theorem not_held_of_presented {key : Int × String} {t : Ticket} (hpresented : v.presented? = some t.token)
    (hcurrent : t.isCurrent v.now = true) (hnew : v.drawn? ≠ some t.token) :
    (w.step config v).devices key ≠ some t := by
  intro ht
  unfold Visit.presented? at hpresented
  rcases hask : v.ask with request | request | request | ⟨userId, fingerprint⟩ | ⟨actor, id⟩ | id <;>
    simp only [hask, reduceCtorEq, Option.some.injEq] at hpresented
  rw [devices_step_of_refresh hask] at ht
  rcases Devices.old_of_give ht with hold | ⟨tokens, htokens, -, htoken⟩
  · exact (Devices.mem_revoke.mp hold).2 ⟨hpresented.symm, hcurrent⟩
  · rw [drawn?_of_refresh hask, htoken, Visit.refreshToken_of_tokens? htokens] at hnew
    exact hnew rfl

/-- A token that a visit ended is not held any more, or it has run out. -/
theorem not_held_of_ends {key : Int × String} {t : Ticket} {now : Instant} (hends : w.Ends config v key t now)
    (hnew : v.drawn? ≠ some t.token) (ht : (w.step config v).devices key = some t) :
    t.isCurrent now = false := by
  rcases hends with ⟨hprint, tokens, htokens, hid⟩ | hask | ⟨hpresented, hcurrent | hlater⟩
  · have hfresh := devices_step_of_tokens hprint htokens
    rw [hid, ht] at hfresh
    rw [Visit.drawn?_of_fingerprint? hprint, Option.some.inj hfresh] at hnew
    exact absurd rfl hnew
  · unfold step Devices.next at ht
    simp only [hask] at ht
    exact absurd rfl (Devices.mem_clear.mp ht).1
  · exact absurd ht (not_held_of_presented hpresented hcurrent hnew)
  · rcases hcurrent : t.isCurrent v.now
    · exact Instant.not_before_trans hcurrent hlater
    · exact absurd ht (not_held_of_presented hpresented hcurrent hnew)

/-- **A token that a visit ended is never exchanged.** -/
theorem IsSound.turnsAway_of_ends (h : w.IsSound before) {between : List Visit} {v' : Visit}
    (hall : Visit.ArePlausible config (before ++ v :: (between ++ v' :: later)))
    (h' : ((w.step config v).run config between).IsSound (before ++ v :: between)) {key : Int × String}
    {t : Ticket} (ht : w.devices key = some t) (hends : w.Ends config v key t v'.now)
    (hpresented : v'.presented? = some t.token) :
    ((w.step config v).run config between).TurnsAway config v' := by
  have hall' : Visit.ArePlausible config ((before ++ v :: between) ++ v' :: later) := by
    rw [List.append_assoc]
    exact hall
  unfold Visit.presented? at hpresented
  rcases hask : v'.ask with request | request | request | ⟨userId, fingerprint⟩ | ⟨actor, id⟩ | id <;>
    simp only [hask, reduceCtorEq, Option.some.injEq] at hpresented
  refine h'.turnsAway hall' hask ?_
  rintro user ⟨-, -, t', ht', htoken', hcurrent'⟩
  -- the token was made before the visit that ended it, so nobody has made it since
  have hlater := hall.not_mem (h.made key t ht)
  have hnew : v.drawn? ≠ some t.token := by
    intro hdrawn
    exact hlater (List.mem_filterMap.mpr ⟨v, List.mem_cons_self, hdrawn⟩)
  have hbetween : t.token ∉ Visit.made between := by
    intro hmade
    refine hlater ?_
    rw [← List.singleton_append, Visit.made_append, Visit.made_append]
    exact List.mem_append_right _ (List.mem_append_left _ hmade)
  have hsame : t'.token = t.token := htoken'.trans hpresented
  have hleft : (w.step config v).devices (user.entry.id, request.fingerprint) = some t' := by
    refine old_of_run ht' ?_
    rw [hsame]
    exact hbetween
  have hheld : w.devices (user.entry.id, request.fingerprint) = some t' := by
    rcases old_of_step hleft with hold | ⟨fingerprint, hprint, -, -, -, htoken⟩
    · exact hold
    · rw [Visit.drawn?_of_fingerprint? hprint, ← htoken, hsame] at hnew
      exact absurd rfl hnew
  have hkey := h.apart _ key t' t hheld ht hsame
  rw [hkey, ht] at hheld
  cases hheld
  rw [hkey] at hleft
  rw [not_held_of_ends hends hnew hleft] at hcurrent'
  cases hcurrent'

/-- **A token that was exchanged is never exchanged again.** -/
theorem IsSound.turnsAway_of_tokens (h : w.IsSound before) {between : List Visit} {v' : Visit}
    (hall : Visit.ArePlausible config (before ++ v :: (between ++ v' :: later)))
    (h' : ((w.step config v).run config between).IsSound (before ++ v :: between)) {token : String}
    (hpresented : v.presented? = some token) (htokens : (v.tokens? config w.db).isSome = true)
    (hpresented' : v'.presented? = some token) :
    ((w.step config v).run config between).TurnsAway config v' := by
  have hgranted : ∃ user request, v.ask = .refresh request ∧ w.Grants v.now request user := by
    by_contra hnone
    push Not at hnone
    unfold Visit.presented? at hpresented
    rcases hask : v.ask with request | request | request | ⟨userId, fingerprint⟩ | ⟨actor, id⟩ | id <;>
      simp only [hask, reduceCtorEq] at hpresented
    have haway : w.TurnsAway config v := h.turnsAway hall hask fun user => hnone user request hask
    rw [haway.tokens?_eq_none] at htokens
    cases htokens
  obtain ⟨user, request, hask, -, -, t, ht, htoken, hcurrent⟩ := hgranted
  have hsame : token = t.token := by
    rw [presented?_of_refresh hask] at hpresented
    exact (Option.some.inj hpresented).symm.trans htoken.symm
  rw [hsame] at hpresented hpresented'
  exact h.turnsAway_of_ends hall h' ht (.inr (.inr ⟨hpresented, .inl hcurrent⟩)) hpresented'

/-- The world after visits to a database. -/
def reached (config : TokenConfig) (db : Database) (visits : List Visit) : World :=
  (start db).run config visits

/-- **Sessions do what the machine does, in every run of visits.** All along a run the rows are the
tokens of the devices, and each visit is what the machine says it is. A token that was ended (because
another took its place, its user logged out, or it was presented) is never exchanged later, and none
is exchanged twice. -/
theorem sessions_refine_devices (config : TokenConfig) {db : Database} {visits : List Visit}
    (hnone : db.tables.sessions = []) (hall : Visit.ArePlausible config visits) :
    (∀ before later, visits = before ++ later →
      (reached config db before).devices.AreKept (reached config db before).db) ∧
    (∀ before v later, visits = before ++ v :: later → (reached config db before).Obeys config v) ∧
    (∀ before v between v' later, visits = before ++ v :: (between ++ v' :: later) →
      (∀ key t, (reached config db before).devices key = some t →
        (reached config db before).Ends config v key t v'.now → v'.presented? = some t.token →
        (reached config db (before ++ v :: between)).TurnsAway config v') ∧
      ∀ token, v.presented? = some token →
        (v.tokens? config (reached config db before).db).isSome = true →
        v'.presented? = some token → (reached config db (before ++ v :: between)).TurnsAway config v') := by
  refine ⟨?_, ?_, ?_⟩
  · rintro before later rfl
    exact (isSound_run hnone hall).kept
  · rintro before v later rfl
    exact (isSound_run hnone hall).obeys hall
  · rintro before v between v' later rfl
    -- both worlds, that before the visit and that before the second use, are sound
    have hsound : (reached config db before).IsSound before := isSound_run hnone hall
    have hall' : Visit.ArePlausible config ((before ++ v :: between) ++ v' :: later) := by
      rw [List.append_assoc]
      exact hall
    have hsound' : (reached config db (before ++ v :: between)).IsSound (before ++ v :: between) :=
      isSound_run hnone hall'
    unfold reached at hsound' ⊢
    rw [run_append_cons] at hsound' ⊢
    refine ⟨fun key t ht hends hpresented => ?_, fun token hpresented htokens hpresented' => ?_⟩
    · exact hsound.turnsAway_of_ends hall hsound' ht hends hpresented
    · exact hsound.turnsAway_of_tokens hall hsound' hpresented htokens hpresented'

/-! ## A token that is exchanged once -/

/-- A service with the standard lifetimes. -/
def standard : TokenConfig := { secret := "secret" }

/-- Anna registers. -/
def joins : Visit := ⟨.register Database.annasRequest, ⟨60, 0⟩, List.replicate 32 0⟩

/-- She logs in on her telephone. -/
def logsIn : Visit := ⟨.login annasLogin, ⟨120, 0⟩, List.replicate 32 1⟩

/-- Her telephone presents the token that was made then. -/
def presents (seconds : Int) (byte : UInt8) : Visit :=
  ⟨.refresh ⟨Uuid.text (List.replicate 16 1), "telephone"⟩, ⟨seconds, 0⟩, List.replicate 32 byte⟩

/-- It does so twice. -/
def telephone : List Visit := [joins, logsIn, presents 180 2, presents 240 3]

/-- On the telephone two fresh tokens are made, whose digests differ, and they run out. -/
theorem arePlausible_telephone : Visit.ArePlausible standard telephone where
  fresh := by decide +kernel
  digests := by decide +kernel
  lasts v hv hdrawn := by
    obtain rfl | rfl | rfl | rfl :
        v = joins ∨ v = logsIn ∨ v = presents 180 2 ∨ v = presents 240 3 := by
      simpa [telephone] using hv
    · cases hdrawn
    all_goals exact ⟨⟨900, rfl, _, rfl⟩, _, rfl, rfl⟩

/-- The digest of the password that she registers with. -/
def annasDigest : String :=
  Password.hash (joins.random.take Password.saltLength) Database.annasRequest.password

/-- Anna, once she has registered. -/
def anna : User :=
  { entry := Database.annasEntry, username := "anna", email := "anna@example.org", passwordHash := annasDigest }

/-- A login with the right password is answered with tokens, and no user is another afterwards. -/
theorem exists_tokens_of_login (hkept : w.db.IsKept) {request : LoginRequest} {user : User}
    (hask : v.ask = .login request) (hcorrect : request.IsCorrect w.db user)
    (hname : isStorableText request.username = true) (hdevice : isStorableText request.fingerprint = true)
    (hunique : (w.db.tables.users.map User.username).Nodup) (hlasts : Logins.Lasts config v.now)
    (hunused : ∀ r ∈ w.db.tables.sessions, r.tokenHash ≠ refreshDigest v.drawn) :
    ∃ tokens, v.tokens? config w.db = some tokens ∧ tokens.user = user ∧
      (w.step config v).db.tables.users = w.db.tables.users := by
  obtain ⟨accessToken, given, session, db', -, -, hissue, hstores⟩ :=
    Logins.issue_succeeds hkept hlasts hdevice hunused hcorrect.mem
  have hlogin := (Logins.exec_login_of_isCorrect hcorrect hname hunique config v.random v.now).trans hissue
  let tokens : AuthTokens := ⟨accessToken, v.drawn, config.accessMins * 60, user⟩
  have hexec : v.exec config w.db = (some (.ok (.ok tokens)), db') := by
    unfold Visit.exec
    rw [hask]
    exact congrArg (Prod.map some id) hlogin
  unfold Visit.tokens? Visit.answer? step Visit.after
  rw [hexec]
  exact ⟨tokens, rfl, rfl, hstores.users⟩

/-- The last visit of a run is a step from the world that all others left. -/
theorem reached_append_singleton (config : TokenConfig) (db : Database) (visits : List Visit) (v : Visit) :
    reached config db (visits ++ [v]) = (reached config db visits).step config v :=
  run_append visits [v]

/-- What a registration leaves. -/
theorem after_of_register {request : RegisterUser} (hask : v.ask = .register request) (db : Database) :
    v.after config db =
      ((Accounts.register (v.random.take Password.saltLength) request : Op Database User).exec v.now db).2 := by
  unfold Visit.after Visit.exec
  rw [hask]

/-- Anna joins. -/
theorem db_joins : (reached standard {} [joins]).db = Database.withAnna annasDigest [] 0 := by
  have hreached := reached_append_singleton standard {} [] joins
  rw [List.nil_append] at hreached
  rw [hreached]
  change joins.after standard {} = _
  rw [after_of_register rfl]
  exact Database.register_anna _

/-- She is the only user. -/
theorem users_joins : (reached standard {} [joins]).db.tables.users = [anna] := by
  rw [db_joins]
  rfl

/-- She has no session yet. -/
theorem sessions_joins : (reached standard {} [joins]).db.tables.sessions = [] := by
  rw [db_joins]
  rfl

/-- Who she says she is when she logs in is who she is. -/
theorem isCorrect_annasLogin : annasLogin.IsCorrect (reached standard {} [joins]).db anna where
  mem := users_joins ▸ List.mem_singleton_self anna
  live := rfl
  name := rfl
  password := by
    have hsalt : (joins.random.take Password.saltLength).length = Password.saltLength := by decide
    refine (Password.verify_hash hsalt _ _).trans ?_
    exact congrArg Except.ok (beq_self_eq_true _)

/-- She is given tokens. -/
theorem exists_tokens_logsIn :
    ∃ tokens, logsIn.tokens? standard (reached standard {} [joins]).db = some tokens ∧
      tokens.user = anna ∧ anna ∈ (reached standard {} [joins, logsIn]).db.tables.users := by
  have hkept : (reached standard {} [joins]).db.IsKept :=
    (isSound_run rfl arePlausible_telephone : (reached standard {} [joins]).IsSound [joins]).kept.kept
  have hlasts : Logins.Lasts standard logsIn.now :=
    arePlausible_telephone.lasts logsIn (List.mem_cons_of_mem _ List.mem_cons_self) rfl
  have hunique : ((reached standard {} [joins]).db.tables.users.map User.username).Nodup := by
    rw [users_joins]
    exact List.nodup_singleton _
  have hunused : ∀ r ∈ (reached standard {} [joins]).db.tables.sessions,
      r.tokenHash ≠ refreshDigest logsIn.drawn := by
    rw [sessions_joins]
    exact nofun
  obtain ⟨tokens, htokens, huser, husers⟩ := exists_tokens_of_login hkept rfl isCorrect_annasLogin (by decide)
    (by decide) hunique hlasts hunused
  have hreached : reached standard {} [joins, logsIn] = (reached standard {} [joins]).step standard logsIn :=
    reached_append_singleton standard {} [joins] logsIn
  refine ⟨tokens, htokens, huser, ?_⟩
  rw [hreached, husers]
  exact isCorrect_annasLogin.mem

/-- Her telephone is given new tokens the first time, and it is turned away the second time. -/
theorem sessions_refine_devices_telephone :
    ({} : Database).tables.sessions = [] ∧ Visit.ArePlausible standard telephone ∧
      (logsIn.tokens? standard (reached standard {} [joins]).db).isSome = true ∧
      ((presents 180 2).tokens? standard (reached standard {} [joins, logsIn]).db).isSome = true ∧
      (reached standard {} [joins, logsIn, presents 180 2]).TurnsAway standard (presents 240 3) := by
  have hnone : ({} : Database).tables.sessions = [] := rfl
  obtain ⟨-, hobeys, hended⟩ := sessions_refine_devices standard hnone arePlausible_telephone
  obtain ⟨tokens, htokens, huser, hmem⟩ := exists_tokens_logsIn
  have hlogin := (hobeys [joins] logsIn [presents 180 2, presents 240 3] rfl).login annasLogin tokens rfl htokens
  have hheld : (reached standard {} [joins, logsIn]).devices (1, "telephone") = some (fresh standard logsIn) := by
    refine (congrFun hlogin.2 (1, "telephone")).trans ?_
    rw [huser]
    exact Function.update_self _ _ _
  have hgrants : (reached standard {} [joins, logsIn]).Grants ⟨180, 0⟩
      ⟨Uuid.text (List.replicate 16 1), "telephone"⟩ anna :=
    ⟨hmem, rfl, _, hheld, rfl, by decide⟩
  obtain ⟨⟨user', -, -, accessToken, -, hanswer⟩, -⟩ :=
    (hobeys [joins, logsIn] (presents 180 2) [presents 240 3] rfl).exchanged _ anna rfl hgrants
  have hexchanged : ((presents 180 2).tokens? standard (reached standard {} [joins, logsIn]).db).isSome = true := by
    unfold Visit.tokens?
    rw [hanswer]
    rfl
  refine ⟨hnone, arePlausible_telephone, ?_, hexchanged, ?_⟩
  · rw [htokens]
    rfl
  · exact (hended [joins, logsIn] (presents 180 2) [] (presents 240 3) [] rfl).2 _ rfl hexchanged rfl

end World

end Fostering
