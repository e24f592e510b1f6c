import Storefront.Proofs.Tokens

namespace Storefront

theorem Text.length_parts (sep : Char) (s : List Char) : (parts sep s).length = s.count sep + 1 := by
  induction s with
  | nil => rfl
  | cons c s ih =>
    by_cases hc : c = sep
    · rw [parts, if_pos hc, hc, List.length_cons, ih, List.count_cons_self]
    · obtain ⟨p, ps, hp⟩ := List.exists_cons_of_ne_nil (parts_ne_nil sep s)
      rw [hp] at ih
      rw [parts, if_neg hc, hp, List.count_cons_of_ne hc, ← ih]
      rfl

namespace Token

theorem encodePart_inj {a b : Bytes} : encodePart a = encodePart b ↔ a = b := by
  refine ⟨?_, congrArg _⟩
  intro h
  have ha := Base64.decode?_encode Base64.url_lawful a
  have hb := Base64.decode?_encode Base64.url_lawful b
  change Base64.decode? Base64.url (encodePart a) = some a at ha
  rw [h] at ha
  exact Option.some.inj (ha.symm.trans hb)

/-- A text that has not exactly two dots is no token. -/
theorem opened?_of_count {P : Primitives} {secret : Bytes} {t : List Char} (h : t.count '.' ≠ 2) :
    opened? P secret t = none := by
  unfold opened?
  split
  · rename_i hp
    have hl := Text.length_parts '.' t
    rw [hp] at hl
    simp only [List.length_cons, List.length_nil] at hl
    omega
  · rfl

namespace Keys

variable {P : Primitives} {k : Keys} {kind other : Kind} {s : Subject} {iat : Int} {now : Instant}

/-- The bytes that are signed for a token. -/
def message (k : Keys) (kind : Kind) (s : Subject) (iat : Int) : Bytes :=
  asciiBytes (signedPart header.bytes (k.claims kind s iat).value.bytes)

/-- Any key opens a token that gives the signature under which the token was issued. -/
theorem opened?_issueAt (secret : Bytes) :
    opened? P secret (k.issueAt P kind s iat).toList =
      if P.sign secret (k.message kind s iat) = P.sign (k.secret kind) (k.message kind s iat) then
        some (k.claims kind s iat).value.bytes
      else none := by
  have ho := opened?_signed P secret (k.claims kind s iat).value.bytes
    (dot_not_mem (P.sign (k.secret kind) (k.message kind s iat)))
  simp only [encodePart_inj] at ho
  rw [issueAt, String.toList_ofList]
  exact ho

theorem verify_unopened {token : String} (h : opened? P (k.secret kind) token.toList = none) :
    k.verify P kind token now = .error .invalid := by
  rw [verify, h]
  rfl

/-- A token of one kind is refused as one of the other kind: for its kind if the two keys give it one signature,
or else for its signature. -/
theorem verify_other (hi : IsSecond iat) (hk : other ≠ kind) :
    k.verify P other (k.issueAt P kind s iat) now =
      .error (if P.sign (k.secret other) (k.message kind s iat) =
          P.sign (k.secret kind) (k.message kind s iat) then
        if (k.claims kind s iat).expiresAt < 0 then .invalid
        else if (k.claims kind s iat).expiresAt < now.seconds then .expired
        else .wrongKind other
      else .invalid) := by
  have ho : opened? P (k.secret other) (k.issueAt P kind s iat).toList = _ := opened?_issueAt (k.secret other)
  by_cases hs : P.sign (k.secret other) (k.message kind s iat) = P.sign (k.secret kind) (k.message kind s iat)
  · have hr : readClaims? (k.claims kind s iat).value.bytes = some (k.claims kind s iat, false) :=
      readClaims?_bytes hi (isSecond_wrap64 _)
    have hn : (k.claims kind s iat).kind ≠ other := hk.symm
    rw [if_pos hs] at ho ⊢
    rw [verify, ho, Option.bind_some, hr]
    simp only [hn, ne_eq, not_false_eq_true, Bool.false_eq_true, if_true, if_false]
    split
    · rfl
    · split
      · rfl
      · rfl
  · rw [if_neg hs] at ho ⊢
    exact verify_unopened ho

/-- With something behind it a token is a token no more. -/
theorem verify_append {n : Nat} (hP : ∀ secret m, (P.sign secret m).length = n) {x : String} (hx : x ≠ "") :
    k.verify P other (k.issueAt P kind s iat ++ x) now = .error .invalid := by
  have ht : (k.issueAt P kind s iat ++ x).toList =
      signedPart header.bytes (k.claims kind s iat).value.bytes ++
        '.' :: (encodePart (P.sign (k.secret kind) (k.message kind s iat)) ++ x.toList) := by
    rw [String.toList_append, issueAt, String.toList_ofList, written, List.append_assoc]
    rfl
  apply verify_unopened
  rw [ht]
  by_cases hd : '.' ∈ x.toList
  · apply opened?_of_count
    have hc := List.count_pos_iff.mpr hd
    simp only [signedPart, List.count_append, List.count_cons_self]
    omega
  · have hs : '.' ∉ encodePart (P.sign (k.secret kind) (k.message kind s iat)) ++ x.toList := by
      rw [List.mem_append, not_or]
      exact ⟨dot_not_mem _, hd⟩
    rw [opened?_signed _ _ _ hs, if_neg]
    intro he
    have hl := congrArg List.length he
    simp only [encodePart, Base64.length_encode, List.length_append, hP] at hl
    exact hx (String.toList_eq_nil_iff.mp (List.length_eq_zero_iff.mp (by omega)))

/-- A token passes as what it was issued as until it expires.  As one of the other kind it never does, whatever
signatures the two keys give, and with anything behind it it passes as nothing. -/
theorem kinds_apart {n : Nat} (hP : ∀ secret m, (P.sign secret m).length = n) (hi : IsSecond iat)
    (ht : IsSecond (iat + (k.ttl kind).seconds)) (now : Instant) :
    k.verify P kind (k.issueAt P kind s iat) now =
        (if iat + (k.ttl kind).seconds < 0 then .error .invalid
        else if iat + (k.ttl kind).seconds < now.seconds then .error .expired
        else .ok (k.claims kind s iat)) ∧
      (∀ other ≠ kind, k.verify P other (k.issueAt P kind s iat) now =
        .error (if P.sign (k.secret other) (k.message kind s iat) =
            P.sign (k.secret kind) (k.message kind s iat) then
          if iat + (k.ttl kind).seconds < 0 then .invalid
          else if iat + (k.ttl kind).seconds < now.seconds then .expired
          else .wrongKind other
        else .invalid)) ∧
      ∀ x ≠ "", ∀ other, k.verify P other (k.issueAt P kind s iat ++ x) now = .error .invalid := by
  have he : (k.claims kind s iat).expiresAt = iat + (k.ttl kind).seconds := expiresAt_claims ht
  refine ⟨?_, ?_, ?_⟩
  · rw [verify_issueAt hi, he]
  · intro other hk
    rw [verify_other hi hk, he]
  · intro x hx other
    exact verify_append hP hx

/-- Both kinds are signed with the same empty secret. -/
def oneSecret : Keys := ⟨[], [], .ofSeconds 900, .ofSeconds 604800⟩

/-- A subject whose texts look like the end of the claims and like the other kind. -/
def feigned : Subject := ⟨"\",\"typ\":\"access", "zoë@b.co\n", "\x7d"⟩

theorem oneSecret_apart :
    (∀ secret m, (Primitives.standard.sign secret m).length = 32) ∧
      IsSecond 1000 ∧ IsSecond (1000 + (oneSecret.ttl .refresh).seconds) ∧
      oneSecret.verify .standard .refresh (oneSecret.issueAt .standard .refresh feigned 1000) 605800999 =
        .ok ⟨feigned, .refresh, 1000, 605800⟩ ∧
      oneSecret.verify .standard .access (oneSecret.issueAt .standard .refresh feigned 1000) 605800999 =
        .error (.wrongKind .access) ∧
      oneSecret.verify .standard .access (oneSecret.issueAt .standard .refresh feigned 1000) 605801000 =
        .error .expired ∧
      oneSecret.verify .standard .refresh (oneSecret.issueAt .standard .refresh feigned 1000 ++ ".") 0 =
        .error .invalid ∧
      oneSecret.verify .standard .access (oneSecret.issueAt .standard .refresh feigned 1000 ++ "e30.A") 0 =
        .error .invalid := by
  have hP : ∀ secret m, (Primitives.standard.sign secret m).length = 32 := Hmac.sign_length
  have hi : IsSecond 1000 := by decide
  have ht : IsSecond (1000 + (oneSecret.ttl .refresh).seconds) := by decide
  have hx : (1000 : Int) + (oneSecret.ttl .refresh).seconds = 605800 := by decide
  have hc : oneSecret.claims .refresh feigned 1000 = ⟨feigned, .refresh, 1000, 605800⟩ :=
    congrArg (Claims.mk feigned .refresh 1000) (by decide)
  have hs : oneSecret.secret .access = oneSecret.secret .refresh := rfl
  have hk (now : Instant) := kinds_apart (s := feigned) hP hi ht now
  refine ⟨hP, hi, ht, ?_, ?_, ?_, ?_, ?_⟩
  · rw [(hk _).1, hx, if_neg (by decide), if_neg (by decide), hc]
  · rw [(hk _).2.1 .access (by decide), hs, if_pos rfl, hx, if_neg (by decide), if_neg (by decide)]
  · rw [(hk _).2.1 .access (by decide), hs, if_pos rfl, hx, if_neg (by decide), if_pos (by decide)]
  · exact (hk _).2.2 "." (by decide) .refresh
  · exact (hk _).2.2 "e30.A" (by decide) .access

end Keys
end Token
end Storefront
