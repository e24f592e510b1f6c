import Storefront.Proofs.JsonWritten
import Storefront.Token

namespace Storefront

namespace Text

theorem parts_of_not_mem {sep : Char} {s : List Char} (h : sep ∉ s) : parts sep s = [s] := by
  induction s with
  | nil => rfl
  | cons c s ih =>
    simp only [List.mem_cons, not_or] at h
    obtain ⟨hc, hs⟩ := h
    rw [parts, if_neg (Ne.symm hc), ih hs]

theorem parts_append {sep : Char} {a : List Char} (h : sep ∉ a) (r : List Char) :
    parts sep (a ++ sep :: r) = a :: parts sep r := by
  induction a with
  | nil => rw [List.nil_append, parts, if_pos rfl]
  | cons c a ih =>
    simp only [List.mem_cons, not_or] at h
    obtain ⟨hc, ha⟩ := h
    rw [List.cons_append, parts, if_neg (Ne.symm hc), ih ha]

theorem cut?_append {sep : Char} {a : List Char} (h : sep ∉ a) (r : List Char) :
    cut? sep (a ++ sep :: r) = some (a, r) := by
  induction a with
  | nil => rw [List.nil_append, cut?, if_pos rfl]
  | cons c a ih =>
    simp only [List.mem_cons, not_or] at h
    obtain ⟨hc, ha⟩ := h
    rw [List.cons_append, cut?, if_neg (Ne.symm hc), ih ha]
    rfl

end Text

namespace Token

open Json

theorem Kind.ofCode?_code (k : Kind) : ofCode? k.code = some k := by
  cases k <;> rfl

theorem readKind_code (k : Kind) (r : Bytes) : readKind (textBytes k.code ++ r) = .ok (k, r) := by
  simp [readKind, readWord_textBytes, Bind.bind, Except.bind, Kind.ofCode?_code]

theorem once_none {α : Type} {name : String} {read : Reader α} {a : α} {s r : Bytes}
    (h : read s = .ok (a, r)) : once none name read (0x3a :: s) = .ok (some a, r) := by
  simp [once, colon_cons, Bind.bind, Except.bind, h]

/-- An instant that a reader of claims takes. -/
def IsSecond (n : Int) : Prop := Decimal.leastSigned64 ≤ n ∧ n ≤ Decimal.mostSigned64

instance (n : Int) : Decidable (IsSecond n) := inferInstanceAs (Decidable (_ ∧ _))

theorem readSeconds_written {n : Int} (h : IsSecond n) {r : Bytes} (hr : EndsNumber r) :
    readSeconds ((Value.int n).bytes ++ r) = .ok (n, r) :=
  readInt_written h.1 h.2 h.1 h.2 hr

theorem readText_written (s : String) (r : Bytes) :
    readText ((Value.text s).bytes ++ r) = .ok (s, r) := readText_textBytes s r

section Members

variable {p : Partial} {s : String} {n : Int} {r : Bytes}

/-- A claim that has not been read is stored as what its value is read as. -/
theorem member_once {α : Type} {key : String} {read : Reader α} {o : Option α} {a : α} {s : Bytes}
    (store : Option α → Partial) (hr : read s = .ok (a, r)) (ho : o = none)
    (hm : p.member key (0x3a :: s) =
      once o key read (0x3a :: s) >>= fun (a, r) => .ok (store a, r)) :
    p.member key (0x3a :: s) = .ok (store (some a), r) := by
  rw [hm, ho, once_none hr]
  rfl

theorem member_id (h : p.id = none) :
    p.member "id" (0x3a :: ((Value.text s).bytes ++ r)) = .ok ({ p with id := some s }, r) :=
  member_once (fun id => { p with id }) (readText_written s r) h rfl

theorem member_email (h : p.email = none) :
    p.member "email" (0x3a :: ((Value.text s).bytes ++ r)) = .ok ({ p with email := some s }, r) :=
  member_once (fun email => { p with email }) (readText_written s r) h rfl

theorem member_role (h : p.role = none) :
    p.member "role" (0x3a :: ((Value.text s).bytes ++ r)) = .ok ({ p with role := some s }, r) :=
  member_once (fun role => { p with role }) (readText_written s r) h rfl

theorem member_kind {k : Kind} (h : p.kind = none) :
    p.member "typ" (0x3a :: ((Value.text k.code).bytes ++ r)) =
      .ok ({ p with kind := some k }, r) :=
  member_once (fun kind => { p with kind }) (readKind_code k r) h rfl

theorem member_issuedAt (h : p.issuedAt = none) (hn : IsSecond n) (hr : EndsNumber r) :
    p.member "iat" (0x3a :: ((Value.int n).bytes ++ r)) =
      .ok ({ p with issuedAt := some n }, r) :=
  member_once (fun issuedAt => { p with issuedAt }) (readSeconds_written hn hr) h rfl

theorem member_expiresAt (h : p.expiresAt = none) (hn : IsSecond n) (hr : EndsNumber r) :
    p.member "exp" (0x3a :: ((Value.int n).bytes ++ r)) =
      .ok ({ p with expiresAt := some n }, r) :=
  member_once (fun expiresAt => { p with expiresAt }) (readSeconds_written hn hr) h rfl

end Members

/-- Claims are read from what is written of them. -/
theorem readClaims?_bytes {c : Claims} (hi : IsSecond c.issuedAt) (he : IsSecond c.expiresAt) :
    readClaims? c.value.bytes = some (c, false) := by
  obtain ⟨⟨id, email, role⟩, kind, iat, exp⟩ := c
  rw [Claims.value, object_bytes, readClaims?, skipBlanks_cons (by decide)]
  have hl := length_written true [("id", .text id), ("email", .text email), ("role", .text role),
    ("typ", .text kind.code), ("iat", .int iat), ("exp", .int exp)]
  obtain ⟨n, hn⟩ := Nat.exists_eq_add_of_le (Nat.le_of_lt hl)
  rw [List.length_cons, Nat.add_comm] at hn
  simp only [hn, List.length_cons, List.length_nil]
  rw [members_cons (member_id rfl), members_cons (member_email rfl), members_cons (member_role rfl),
    members_cons (member_kind rfl), members_cons (member_issuedAt rfl hi (endsNumber_written _)),
    members_cons (member_expiresAt rfl he (endsNumber_written _)), members_nil]
  rfl

theorem acceptsHeader_header : acceptsHeader header.bytes = true := by decide +kernel

theorem dot_not_mem (b : Bytes) : '.' ∉ encodePart b := by
  intro h
  obtain ⟨n, hn, he⟩ := Base64.mem_encode h
  exact Base64.url_digit_ne_dot n hn he.symm

/-- What stands in front of a signature comes out again if it is the right one. -/
theorem opened?_signed (P : Primitives) (secret claims : Bytes) {s : List Char} (hs : '.' ∉ s) :
    opened? P secret (signedPart header.bytes claims ++ '.' :: s) =
      if encodePart (P.sign secret (asciiBytes (signedPart header.bytes claims))) = s then some claims
      else none := by
  have hp : Text.parts '.' (signedPart header.bytes claims ++ '.' :: s) =
      [encodePart header.bytes, encodePart claims, s] := by
    rw [signedPart, List.append_assoc, List.cons_append, Text.parts_append (dot_not_mem _),
      Text.parts_append (dot_not_mem _), Text.parts_of_not_mem hs]
  have hd (b : Bytes) : Base64.decode? Base64.url (encodePart b) = some b :=
    Base64.decode?_encode Base64.url_lawful b
  rw [opened?, hp]
  by_cases he : encodePart (P.sign secret (asciiBytes (signedPart header.bytes claims))) = s
  · rw [if_pos he]
    rw [signedPart] at he
    simp [hd, acceptsHeader_header, he]
  · rw [if_neg he]
    rw [signedPart] at he
    simp [hd, he]

/-- What was signed comes out again. -/
theorem opened?_written (P : Primitives) (secret claims : Bytes) :
    opened? P secret (written P secret header.bytes claims) = some claims := by
  rw [written, opened?_signed _ _ _ (dot_not_mem _), if_pos rfl]

/-- The characters of a token are digits and dots. -/
theorem mem_written {P : Primitives} {secret header claims : Bytes} {c : Char}
    (h : c ∈ written P secret header claims) : c = '.' ∨ ∃ n < 64, c = Base64.url.digit n := by
  simp only [written, signedPart, List.mem_append, List.mem_cons] at h
  rcases h with (h | h | h) | h | h
  · exact .inr (Base64.mem_encode h)
  · exact .inl h
  · exact .inr (Base64.mem_encode h)
  · exact .inl h
  · exact .inr (Base64.mem_encode h)

theorem isSecond_wrap64 (n : Int) : IsSecond (Decimal.wrap64 n) := by
  have h₁ := Int.le_bmod (x := n) (m := 0x10000000000000000) (by omega)
  have h₂ := Int.bmod_lt (x := n) (m := 0x10000000000000000) (by omega)
  simp only [IsSecond, Decimal.leastSigned64, Decimal.mostSigned64, Decimal.wrap64]
  omega

/-- A token lives as long as it is meant to, if 64 bits are enough. -/
theorem expiresAt_claims {k : Keys} {kind : Kind} {s : Subject} {iat : Int}
    (h : IsSecond (iat + (k.ttl kind).seconds)) :
    (k.claims kind s iat).expiresAt = iat + (k.ttl kind).seconds := by
  obtain ⟨hl, hm⟩ := h
  simp only [Decimal.leastSigned64, Decimal.mostSigned64] at hl hm
  simp only [Keys.claims, Decimal.wrap64, Int.add_bmod_bmod]
  exact Int.bmod_eq_of_le (by omega) (by omega)

/-- What becomes of a token that was issued: it is read as what it says, until it expires. -/
theorem Keys.verify_issueAt {P : Primitives} {k : Keys} {kind : Kind} {s : Subject} {iat : Int}
    {now : Instant} (h : IsSecond iat) :
    k.verify P kind (k.issueAt P kind s iat) now =
      if (k.claims kind s iat).expiresAt < 0 then .error .invalid
      else if (k.claims kind s iat).expiresAt < now.seconds then .error .expired
      else .ok (k.claims kind s iat) := by
  have hr : readClaims? (k.claims kind s iat).value.bytes = some (k.claims kind s iat, false) :=
    readClaims?_bytes h (isSecond_wrap64 _)
  have hk : (k.claims kind s iat).kind = kind := rfl
  rw [verify, issueAt, String.toList_ofList, opened?_written, Option.bind_some, hr]
  simp only [hk, ne_eq, not_true_eq_false, Bool.false_eq_true, if_false]

end Token
end Storefront
