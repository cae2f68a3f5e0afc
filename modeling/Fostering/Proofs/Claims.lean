import Fostering.Proofs.Json.Writing
import Fostering.Proofs.Tokens

/-!
# Claims that the service has written

The claims in a token are read back as they were written, so a token of the service is judged by the time
at which it runs out and by nothing else.

* `Claims.read_toJson`: claims are read as they were written.
* `Token.validate_sign_eq`: what is made of a signed token, at any time.
-/

namespace Fostering

open Json (Width Row Text)

namespace Claims

/-- The numbers in claims fit into 64 bits. -/
structure Fits (c : Claims) : Prop where
  sub : Width.w64.fits c.sub = true
  exp : Width.w64.fits c.exp = true
  iat : Width.w64.fits c.iat = true

/-- The fields of claims that are written. -/
def members (c : Claims) : List (String × Json) :=
  [("sub", .int c.sub), ("moderator", .flag c.moderator), ("exp", .int c.exp), ("iat", .int c.iat),
    ("jti", .text c.jti)]

variable {c : Claims}

/-- What is written for each of the claims is a value of the grammar. -/
theorem text_members : ∀ field ∈ c.members, Text .value (Utf8.encode field.2.render) := by
  have hint (n : Int) : Text .value (Utf8.encode (Json.int n).render) := Json.text_int n
  have hjti : Text .value (Utf8.encode (Json.text c.jti).render) := Json.text_quote c.jti
  have hflag : Text .value (Utf8.encode (Json.flag c.moderator).render) := Json.text_flag c.moderator
  unfold members
  simp only [List.forall_mem_cons]
  exact ⟨hint _, hflag, hint _, hint _, hjti, nofun⟩

/-- **Claims are read as they were written.** -/
theorem read_toJson (h : c.Fits) :
    shape.read (Utf8.encode c.toJson.render) = .ok (c.sub, c.moderator, c.exp, c.iat, c.jti, ()) := by
  refine Json.Shape.read_object_render (by decide) ?_ text_members
    (show ["sub", "moderator", "exp", "iat", "jti"].Nodup by decide)
  have hint {n : Int} (hn : Width.w64.fits n = true) (name : String) :
      Json.Field.Reads ⟨name, .whole .w64, .required⟩ (Utf8.encode (Json.int n).render) n :=
    fun rest hrest => Json.readWhole_int hn hrest
  have hflag : Json.Field.Reads ⟨"moderator", .flag, .required⟩
      (Utf8.encode (Json.flag c.moderator).render) c.moderator :=
    fun rest _ => Json.readFlag_render c.moderator rest
  have hjti : Json.Field.Reads ⟨"jti", .text, .required⟩ (Utf8.encode (Json.text c.jti).render) c.jti :=
    fun rest _ => Json.readText_quote c.jti rest
  have hsub := hint h.sub "sub"
  have hexp := hint h.exp "exp"
  have hiat := hint h.iat "iat"
  simp [Row.Reads, Json.membersOf, hsub, hflag, hexp, hiat, hjti]

end Claims

namespace Token

variable {c : Claims}

/-- A reader of the bounds alone finds the end and the subject among the claims that were written. -/
theorem readBounds_toJson (c : Claims) : boundsShape.read (Utf8.encode c.toJson.render) =
    .ok (Utf8.encode (Json.int c.exp).render, [], Utf8.encode (Json.int c.sub).render, [], [], ()) := by
  refine Json.Shape.read_object_render (by decide) ?_ Claims.text_members
    (show ["sub", "moderator", "exp", "iat", "jti"].Nodup by decide)
  have hint (n : Int) (name : String) :
      Json.Field.Reads ⟨name, .raw, .defaulted⟩ (Utf8.encode (Json.int n).render)
        (Utf8.encode (Json.int n).render) :=
    fun rest hrest => Json.readRaw_text (Json.text_int n) hrest
  have hexp := hint c.exp "exp"
  have hsub := hint c.sub "sub"
  simp [Row.Reads, Json.membersOf, hexp, hsub, Json.Field.absent, Json.Kind.empty]

/-- What is made of the time at which a token runs out. -/
def verdict (now : Instant) (c : Claims) : Except Fault Claims :=
  if c.exp < 0 then .error .noExpiry
  else if c.exp < now.seconds - leeway then .error .expired
  else .ok c

/-- **A token that was signed with the secret is judged by the time at which it runs out.** -/
theorem validate_sign_eq (secret : String) (now : Instant) (h : c.Fits) :
    validate secret now (sign secret c) = verdict now c := by
  have hnobody : isAudience [] = false := by decide
  have hexp : Json.readWhole .w64 (Utf8.encode (Json.int c.exp).render) = .ok (c.exp, []) := by
    have hread : Json.readWhole .w64 (Utf8.encode (Json.int c.exp).render ++ []) = .ok (c.exp, []) :=
      Json.readWhole_int h.exp nofun
    rwa [List.append_nil] at hread
  rw [validate_sign]
  unfold judge
  rw [Claims.read_toJson h]
  dsimp only
  unfold checkBounds verdict
  rw [readBounds_toJson]
  dsimp only
  rw [hexp]
  dsimp only
  split_ifs with hnever hlate haudience
  · rfl
  · rfl
  · rw [hnobody] at haudience
    cases haudience
  · rfl

end Token

end Fostering
