import Mathlib.Algebra.Group.Int.Defs
import Storefront.Account.Gate
import Storefront.Account.Settings
import Storefront.Account.User
import Storefront.Proofs.Tokens

namespace Storefront.Account

open Token (IsSecond)

variable {P : Primitives} {s : Settings} {k : Token.Keys} {kind : Token.Kind} {sub : Token.Subject}
  {iat : Int}

theorem valueText?_ascii {cs : List Char}
    (h : ∀ c ∈ cs, Http.isTextByte (Bytes.ascii c) = true ∧ Char.ofNat (Bytes.ascii c).toNat = c) :
    Http.valueText? (cs.map Bytes.ascii) = some cs := by
  have hb : (cs.map Bytes.ascii).all Http.isTextByte = true := by
    simp only [List.all_map, List.all_eq_true]
    exact fun c hc => (h c hc).1
  have hm : (cs.map Bytes.ascii).map (fun b => Char.ofNat b.toNat) = cs.map id := by
    rw [List.map_map]
    exact List.map_congr_left fun c hc => (h c hc).2
  rw [Http.valueText?, if_pos hb, hm, List.map_id]

/-- Characters of tokens may stand in headers, and none of them is blank. -/
theorem token_char {c : Char} (h : c ∈ (k.issueAt P kind sub iat).toList) :
    Text.isBlank c = false ∧ Http.isTextByte (Bytes.ascii c) = true ∧
      Char.ofNat (Bytes.ascii c).toNat = c := by
  have hd : ∀ n < 64, Text.isBlank (Base64.url.digit n) = false ∧
      Http.isTextByte (Bytes.ascii (Base64.url.digit n)) = true ∧
      Char.ofNat (Bytes.ascii (Base64.url.digit n)).toNat = Base64.url.digit n := by decide
  rw [Token.Keys.issueAt, String.toList_ofList] at h
  rcases Token.mem_written h with rfl | ⟨n, hn, rfl⟩
  · decide
  · exact hd n hn

theorem ascii_char {c : Char} (hl : 32 ≤ c.toNat) (hh : c.toNat < 127) :
    Http.isTextByte (Bytes.ascii c) = true ∧ Char.ofNat (Bytes.ascii c).toNat = c := by
  have hn : (Bytes.ascii c).toNat = c.toNat := Bytes.toNat_ascii (by omega)
  refine ⟨?_, by rw [hn, Char.ofNat_toNat]⟩
  simp only [Http.isTextByte, Bool.or_eq_true, Bool.and_eq_true, decide_eq_true_eq,
    UInt8.le_iff_toNat_le, UInt8.lt_iff_toNat_lt, hn]
  exact .inr ⟨hl, hh⟩

/-- The blanks that may stand in a header. -/
def Spacing (cs : List Char) : Prop := ∀ c ∈ cs, c = ' ' ∨ c = '\t'

theorem Spacing.blank {cs : List Char} (h : Spacing cs) : ∀ c ∈ cs, Text.isBlank c = true := by
  intro c hc
  rcases h c hc with rfl | rfl
  · decide
  · decide

theorem Spacing.text {cs : List Char} (h : Spacing cs) :
    ∀ c ∈ cs, Http.isTextByte (Bytes.ascii c) = true ∧ Char.ofNat (Bytes.ascii c).toNat = c := by
  intro c hc
  rcases h c hc with rfl | rfl
  · decide
  · decide

/-- What stands in front of a token and behind it does not change how the token is read. -/
structure Framed (scheme before after : List Char) : Prop where
  scheme : scheme.map Char.toLower = "bearer".toList
  before : Spacing before
  after : Spacing after

/-- A token in a header: the scheme in any case, a space, and the token, perhaps with blanks around it. -/
def bearerText (scheme before : List Char) (token : String) (after : List Char) : List Char :=
  scheme ++ ' ' :: (before ++ token.toList ++ after)

section Headers

variable {h : Http.Headers} {scheme before after : List Char}

/-- The header is read as it was written. -/
theorem text?_framed (hf : Framed scheme before after)
    (hh : h.first? "authorization" =
      some ((bearerText scheme before (k.issueAt P kind sub iat) after).map Bytes.ascii)) :
    h.text? "authorization" = some (bearerText scheme before (k.issueAt P kind sub iat) after) := by
  rw [Http.Headers.text?, hh, Option.bind_some]
  apply valueText?_ascii
  intro c hc
  rcases List.mem_append.mp hc with hc | hc
  · by_cases hl : 65 ≤ c.toNat ∧ c.toNat ≤ 90
    · exact ascii_char (by omega) (by omega)
    · have hm : c ∈ scheme.map Char.toLower := List.mem_map.mpr ⟨c, hc, Text.Case.toLower_of_small hl⟩
      rw [hf.scheme] at hm
      change c ∈ ['b', 'e', 'a', 'r', 'e', 'r'] at hm
      simp only [List.mem_cons, List.not_mem_nil, or_false] at hm
      rcases hm with rfl | rfl | rfl | rfl | rfl | rfl
      all_goals decide
  · rcases List.mem_cons.mp hc with rfl | hc
    · decide
    · rcases List.mem_append.mp hc with hc | hc
      · rcases List.mem_append.mp hc with hc | hc
        · exact hf.before.text c hc
        · exact (token_char hc).2
      · exact hf.after.text c hc

/-- A token is taken from the header as it was issued. -/
theorem bearerToken?_framed (hf : Framed scheme before after)
    (hh : h.text? "authorization" = some (bearerText scheme before (k.issueAt P kind sub iat) after)) :
    bearerToken? h = some (k.issueAt P kind sub iat) := by
  have hb : ' ' ∉ scheme := by
    intro hm
    have hl : ' ' ∈ "bearer".toList := hf.scheme ▸ List.mem_map.mpr ⟨_, hm, by decide⟩
    exact absurd hl (by decide)
  have hne : (k.issueAt P kind sub iat).toList ≠ [] := by
    rw [Token.Keys.issueAt, String.toList_ofList, Token.written]
    simp
  have ht : Text.trim (before ++ (k.issueAt P kind sub iat).toList ++ after) =
      (k.issueAt P kind sub iat).toList :=
    (Text.trim_append hf.before.blank hf.after.blank).trans
      (Text.trim_of_none_blank fun c hc => (token_char hc).1)
  simp only [bearerToken?, hh, bearerText, Option.bind_eq_bind, Option.bind_some, Text.cut?_append hb, ht,
    hf.scheme, ne_eq, hne, not_false_eq_true, and_self, if_true, String.ofList_toList]

end Headers

theorem framed_bare {scheme : List Char} (hs : scheme.map Char.toLower = "bearer".toList) :
    Framed scheme [] [] := ⟨hs, by simp [Spacing], by simp [Spacing]⟩

theorem text?_issued {scheme : List Char} (hs : scheme.map Char.toLower = "bearer".toList) :
    Http.Headers.text?
        [("authorization", (scheme ++ ' ' :: (k.issueAt P kind sub iat).toList).map Bytes.ascii)]
        "authorization" = some (scheme ++ ' ' :: (k.issueAt P kind sub iat).toList) := by
  have hf (v : Bytes) : Http.Headers.first? [("authorization", v)] "authorization" = some v := by
    simp [Http.Headers.first?, Http.Headers.all, Http.sameName]
  have ht : Http.Headers.text?
      [("authorization", (bearerText scheme [] (k.issueAt P kind sub iat) []).map Bytes.ascii)]
      "authorization" = some (bearerText scheme [] (k.issueAt P kind sub iat) []) :=
    text?_framed (framed_bare hs) (hf _)
  simpa only [bearerText, List.nil_append, List.append_nil] using ht

theorem bearerToken?_issued {h : Http.Headers} {scheme : List Char}
    (hs : scheme.map Char.toLower = "bearer".toList)
    (hh : h.text? "authorization" = some (scheme ++ ' ' :: (k.issueAt P kind sub iat).toList)) :
    bearerToken? h = some (k.issueAt P kind sub iat) := by
  apply bearerToken?_framed (framed_bare hs)
  simpa only [bearerText, List.nil_append, List.append_nil] using hh

/-- What an issued token says of its user while it is good. -/
theorem verify_issue {now now' : Instant} {u : User} {c : Token.Claims}
    (hi : IsSecond now.seconds) (ht : IsSecond (now.seconds + s.accessTtl.seconds))
    (h : s.keys.verify P .access (s.keys.issue P .access u.subject now) now' = .ok c) :
    c.subject = u.subject ∧ now'.seconds ≤ now.seconds + s.accessTtl.seconds := by
  rw [Token.Keys.issue, Token.Keys.verify_issueAt hi] at h
  split at h
  · cases h
  · split at h
    · cases h
    · rename_i he
      obtain rfl := Except.ok.inj h
      have hx : (s.keys.claims .access u.subject now.seconds).expiresAt =
          now.seconds + s.accessTtl.seconds := Token.expiresAt_claims ht
      rw [hx] at he
      exact ⟨rfl, by omega⟩

theorem Caller.ofClaims?_subject {u : User} {c : Token.Claims} (hc : c.subject = u.subject) :
    ofClaims? c = some ⟨u.id, u.email.text, u.role⟩ := by
  have hi : Uuid.ofPadded? u.subject.id = some u.id := Uuid.ofPadded?_text u.id
  have hr : Role.ofCode? u.subject.role = some u.role := Role.ofCode?_code u.role
  simp only [ofClaims?, hc, hi, hr, Option.bind_eq_bind, Option.bind_some]
  rfl

/-- The caller with a token is its user as it was when the token was issued, until the token expires. -/
theorem Caller.ofHeaders_issued {h : Http.Headers} {u : User} {now now' : Instant}
    (hb : bearerToken? h = some (s.keys.issue P .access u.subject now)) (hi : IsSecond now.seconds)
    (ht : IsSecond (now.seconds + s.accessTtl.seconds)) (h₀ : 0 ≤ now.seconds + s.accessTtl.seconds)
    (hn : now'.seconds ≤ now.seconds + s.accessTtl.seconds) :
    ofHeaders P s.keys h now' = .ok ⟨u.id, u.email.text, u.role⟩ := by
  have he : (s.keys.claims .access u.subject now.seconds).expiresAt =
      now.seconds + s.accessTtl.seconds := Token.expiresAt_claims ht
  have hv : s.keys.verify P .access (s.keys.issue P .access u.subject now) now' =
      .ok (s.keys.claims .access u.subject now.seconds) := by
    rw [Token.Keys.issue, Token.Keys.verify_issueAt hi, he, if_neg (by omega), if_neg (by omega)]
  have hc : ofClaims? (s.keys.claims .access u.subject now.seconds) = some ⟨u.id, u.email.text, u.role⟩ :=
    ofClaims?_subject rfl
  simp only [ofHeaders, hb, hv, hc]

theorem Caller.of_headers {h : Http.Headers} {now : Instant} {caller : Caller}
    (hc : ofHeaders P s.keys h now = .ok caller) :
    ∃ t c, bearerToken? h = some t ∧ s.keys.verify P .access t now = .ok c ∧
      ofClaims? c = some caller := by
  unfold ofHeaders at hc
  split at hc
  · cases hc
  · rename_i t ht
    split at hc
    · cases hc
    · rename_i c hv
      split at hc
      · rename_i x hx
        cases hc
        exact ⟨t, c, ht, hv, hx⟩
      · cases hc

/-- Whom an access token identifies that was issued to a user at the second `iat`: the user as it was then, up to
and including the second at which the token expires, and nobody afterwards. -/
theorem Caller.ofHeaders_framed {h : Http.Headers} {u : User} {scheme before after : List Char}
    (hf : Framed scheme before after) (h₀ : 0 ≤ iat) (ht : iat + (k.ttl .access).seconds < 2 ^ 63)
    (hh : h.first? "authorization" = some
      ((bearerText scheme before (k.issueAt P .access u.subject iat) after).map Bytes.ascii))
    (now : Instant) :
    ofHeaders P k h now =
      if now.seconds ≤ iat + (k.ttl .access).seconds then .ok ⟨u.id, u.email.text, u.role⟩
      else .error .invalidAccessToken := by
  have hi : IsSecond iat := by
    simp only [IsSecond, Decimal.leastSigned64, Decimal.mostSigned64]
    omega
  have he : (k.claims .access u.subject iat).expiresAt = iat + (k.ttl .access).seconds := by
    apply Token.expiresAt_claims
    simp only [IsSecond, Decimal.leastSigned64, Decimal.mostSigned64]
    omega
  have hb : bearerToken? h = some (k.issueAt P .access u.subject iat) :=
    bearerToken?_framed hf (text?_framed hf hh)
  have hc : ofClaims? (k.claims .access u.subject iat) = some ⟨u.id, u.email.text, u.role⟩ :=
    ofClaims?_subject rfl
  have hv : k.verify P .access (k.issueAt P .access u.subject iat) now =
      if iat + (k.ttl .access).seconds < now.seconds then .error .expired
      else .ok (k.claims .access u.subject iat) := by
    rw [Token.Keys.verify_issueAt hi, he, if_neg (by omega)]
  by_cases hn : now.seconds ≤ iat + (k.ttl .access).seconds
  · rw [if_neg (by omega)] at hv
    rw [if_pos hn]
    simp only [ofHeaders, hb, hv, hc]
  · rw [if_pos (by omega)] at hv
    rw [if_neg hn]
    simp only [ofHeaders, hb, hv]

/-- A user whose address has quotes, a backslash and letters outside of ASCII. -/
def zoe : User :=
  .new (.ofNat 9) ⟨"Zoë"⟩ ⟨"\"zoë\\\"@b.co"⟩ ⟨""⟩ .manager 0

/-- Keys with an empty secret, whose access tokens expire at the last second there is. -/
def lastKeys : Token.Keys := ⟨[], [], .ofSeconds (2 ^ 63 - 1001), .ofSeconds 1⟩

def zoeHeaders : Http.Headers :=
  [("Accept", []), ("Authorization", (bearerText "bEaReR".toList ['\t', ' ']
    (lastKeys.issueAt .standard .access zoe.subject 1000) [' ']).map Bytes.ascii)]

theorem zoe_identified :
    Framed "bEaReR".toList ['\t', ' '] [' '] ∧
      (1000 : Int) + (lastKeys.ttl .access).seconds < 2 ^ 63 ∧
      Caller.ofHeaders .standard lastKeys zoeHeaders ((2 ^ 63 - 1) * 1000) =
        .ok ⟨.ofNat 9, "\"zoë\\\"@b.co", .manager⟩ ∧
      Caller.ofHeaders .standard lastKeys zoeHeaders (2 ^ 63 * 1000) = .error .invalidAccessToken := by
  have hf : Framed "bEaReR".toList ['\t', ' '] [' '] :=
    ⟨by decide, by simp [Spacing], by simp [Spacing]⟩
  have ht : (1000 : Int) + (lastKeys.ttl .access).seconds < 2 ^ 63 := by decide
  have hh : zoeHeaders.first? "authorization" = some ((bearerText "bEaReR".toList ['\t', ' ']
      (lastKeys.issueAt .standard .access zoe.subject 1000) [' ']).map Bytes.ascii) := by
    simp [zoeHeaders, Http.Headers.first?, Http.Headers.all, Http.sameName]
  have hc := Caller.ofHeaders_framed hf (by decide) ht hh
  refine ⟨hf, ht, ?_, ?_⟩
  · rw [hc, if_pos (by decide)]
    rfl
  · rw [hc, if_neg (by decide)]

end Storefront.Account
