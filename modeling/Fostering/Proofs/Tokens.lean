import Fostering.Http.Caller
import Fostering.Proofs.Codec.Base64

/-!
# Access tokens that the service has signed

A token is believed for its digest, and a token that was signed with the secret of the service has the
right one. So nothing but its claims decides about it: who it was made for, and until when it is good.

* `Token.validate_sign`: a signed token is judged by its claims.
* `Caller.authenticate_of_signed`: whoever shows a signed token with good claims is believed.
-/

namespace Fostering

/-! ## Parts of tokens -/

namespace Token

/-- The characters of parts are characters of headers, and none of them is a point. -/
theorem mem_part {bytes : Bytes} {c : Char} (h : c ∈ (part bytes).toList) :
    Caller.isHeaderChar c = true ∧ c ≠ '.' := by
  have hchars : ∀ n < 64, Caller.isHeaderChar (Base64.Alphabet.url.char n) = true ∧
      Base64.Alphabet.url.char n ≠ '.' := by decide
  unfold part Base64.encode at h
  rw [String.toList_ofList] at h
  obtain ⟨n, hn, rfl⟩ := Base64.exists_of_mem_encodeChars h
  exact hchars n hn

/-- A part of a token is read as it was written. -/
theorem decodePart_part (bytes : Bytes) : decodePart (part bytes).toList = .ok bytes := by
  unfold decodePart part
  rw [String.ofList_toList, Base64.decode?_encode Base64.Alphabet.isReadable_url]

/-- A text is split at the point before a part. -/
theorem splitLast_append (front : List Char) (bytes : Bytes) :
    splitLast (front ++ '.' :: (part bytes).toList) = some (front, (part bytes).toList) := by
  have hnone : ∀ c ∈ (part bytes).toList.reverse, (decide (c ≠ '.')) = true := by
    intro c hc
    exact decide_eq_true (mem_part (List.mem_reverse.mp hc)).2
  have hreverse : (front ++ '.' :: (part bytes).toList).reverse =
      (part bytes).toList.reverse ++ '.' :: front.reverse := by simp
  unfold splitLast
  rw [hreverse, List.takeWhile_append_of_pos hnone, List.dropWhile_append_of_pos hnone]
  simp

/-- What is made of the claims in a token. -/
def judge (now : Instant) (bytes : Bytes) : Except Fault Claims :=
  match Claims.shape.read bytes with
  | .error _ => .error .json
  | .ok row => do
    checkBounds now bytes
    return Claims.ofRow row

/-- A token is judged by its claims if its parts can be read and its digest is right. -/
theorem validate_of_parts {secret : String} {now : Instant} {token : String}
    {message digest head body : List Char} {headBytes bodyBytes : Bytes}
    (htoken : splitLast token.toList = some (message, digest))
    (hmessage : splitLast message = some (head, body)) (hhead : decodePart head = .ok headBytes)
    (hheader : checkHeader headBytes = .ok ())
    (hdigest : String.ofList digest = signature secret (String.ofList message))
    (hbody : decodePart body = .ok bodyBytes) : validate secret now token = judge now bodyBytes := by
  unfold validate
  simp only [htoken, hmessage]
  rw [hhead]
  change (checkHeader headBytes >>= _) = _
  rw [hheader]
  change (if _ then _ else _) = _
  rw [if_neg (not_not_intro hdigest), hbody]
  rfl

/-- The header of a token is one that the service takes. -/
theorem checkHeader_header : checkHeader (Utf8.encode header.render) = .ok () := by decide +kernel

/-- **A token that was signed with the secret is judged by its claims.** -/
theorem validate_sign (secret : String) (now : Instant) (claims : Claims) :
    validate secret now (sign secret claims) = judge now (Utf8.encode claims.toJson.render) := by
  let message : String :=
    part (Utf8.encode header.render) ++ "." ++ part (Utf8.encode claims.toJson.render)
  have htoken : splitLast (sign secret claims).toList =
      some (message.toList, (signature secret message).toList) := by
    unfold sign
    rw [String.toList_append, String.toList_append, List.append_assoc]
    exact splitLast_append _ _
  have hmessage : splitLast message.toList = some ((part (Utf8.encode header.render)).toList,
      (part (Utf8.encode claims.toJson.render)).toList) := by
    unfold message
    rw [String.toList_append, String.toList_append, List.append_assoc]
    exact splitLast_append _ _
  refine validate_of_parts htoken hmessage (decodePart_part _) checkHeader_header ?_ (decodePart_part _)
  rw [String.ofList_toList, String.ofList_toList]

end Token

/-! ## Callers -/

namespace Caller

variable {secret : String} {now : Instant} {incoming : Incoming} {claims : Claims}

/-- A caller who shows a good token is who the token says. -/
theorem authenticate_of_validate {token : String} (hshown : shownToken incoming = .ok token)
    (hvalid : Token.validate secret now token = .ok claims) :
    authenticate secret now incoming = .ok ⟨claims.sub, claims.moderator⟩ := by
  unfold authenticate
  simp only [hshown, bind, Except.bind, hvalid]

/-- A token in the header for it is shown, if it is made of characters of headers. -/
theorem shownToken_eq {token : String}
    (hheader : incoming.header? "authorization" = some ("Bearer " ++ token))
    (hchars : ∀ c ∈ token.toList, isHeaderChar c = true) : shownToken incoming = .ok token := by
  have hscheme : scheme.all isHeaderChar = true := by decide
  have hvalue : ("Bearer " ++ token).toList = scheme ++ token.toList := by
    rw [String.toList_append]
    rfl
  have hall : (scheme ++ token.toList).all isHeaderChar = true := by
    rw [List.all_append, hscheme, List.all_eq_true.mpr hchars]
    rfl
  have hbearer : scheme.isPrefixOf (scheme ++ token.toList) = true :=
    List.isPrefixOf_iff_prefix.mpr (List.prefix_append _ _)
  unfold shownToken
  simp only [hheader, hvalue, hall, hbearer, List.drop_left, String.ofList_toList]
  rfl

/-- Signed tokens are made of characters of headers. -/
theorem isHeaderChar_of_mem_sign {c : Char} (h : c ∈ (Token.sign secret claims).toList) :
    isHeaderChar c = true := by
  have hpoint (h : c ∈ ".".toList) : isHeaderChar c = true := by
    rw [List.mem_singleton.mp h]
    decide
  unfold Token.sign Token.signature at h
  simp only [String.toList_append, List.mem_append] at h
  rcases h with (((h | h) | h) | h) | h
  · exact (Token.mem_part h).1
  · exact hpoint h
  · exact (Token.mem_part h).1
  · exact hpoint h
  · exact (Token.mem_part h).1

/-- **Whoever shows a signed token with good claims is the user that it was made for.** -/
theorem authenticate_of_signed
    (hheader : incoming.header? "authorization" = some ("Bearer " ++ Token.sign secret claims))
    (hgood : Token.judge now (Utf8.encode claims.toJson.render) = .ok claims) :
    authenticate secret now incoming = .ok ⟨claims.sub, claims.moderator⟩ := by
  refine authenticate_of_validate (shownToken_eq hheader fun _ => isHeaderChar_of_mem_sign) ?_
  rw [Token.validate_sign, hgood]

end Caller

end Fostering
