import Storefront.Proofs.Callers

namespace Storefront

/-- A text of printable characters of ASCII. -/
def Text.Plain (s : String) : Prop := ∀ c ∈ s.toList, 32 ≤ c.toNat ∧ c.toNat < 127

namespace Text.Plain

-- over the characters of the text, and not over all characters there are
instance (s : String) : Decidable (Text.Plain s) := List.decidableBAll _ s.toList

theorem append {s t : String} (hs : Text.Plain s) (ht : Text.Plain t) : Text.Plain (s ++ t) := by
  intro c hc
  rw [String.toList_append] at hc
  rcases List.mem_append.mp hc with hc | hc
  · exact hs c hc
  · exact ht c hc

theorem natural (n : Nat) : Text.Plain (toString n) := by
  intro c hc
  have hm : c ∈ Decimal.naturalDigits n := by
    rwa [← String.toList_ofList (l := Decimal.naturalDigits n)]
  have hb := Json.digit_bounds (Decimal.mem_naturalDigits hm)
  omega

theorem integer (n : Int) : Text.Plain (toString n) := by
  cases n with
  | ofNat n => exact natural n
  | negSucc n => exact append (s := "-") (by decide) (natural n.succ)

end Text.Plain

namespace Text

theorem parts_joined {sep : Char} {ps : List (List Char)} (h : ∀ p ∈ ps, sep ∉ p) (hn : ps ≠ []) :
    parts sep (joined sep ps) = ps := by
  induction ps with
  | nil => exact absurd rfl hn
  | cons p ps ih =>
    have hp : sep ∉ p := h p List.mem_cons_self
    cases ps with
    | nil => exact parts_of_not_mem hp
    | cons q qs =>
      rw [joined, parts_append hp, ih (fun x hx => h x (List.mem_cons_of_mem _ hx)) (by simp)]
      simp

end Text

theorem Token.Keys.plain_issueAt (P : Primitives) (k : Keys) (kind : Kind) (s : Subject) (iat : Int) :
    Text.Plain (k.issueAt P kind s iat) := by
  have hd : ∀ n < 64, 32 ≤ (Base64.url.digit n).toNat ∧ (Base64.url.digit n).toNat < 127 := by decide
  intro c hc
  rw [issueAt, String.toList_ofList] at hc
  rcases mem_written hc with rfl | ⟨n, hn, rfl⟩
  · decide
  · exact hd n hn

theorem Token.Keys.semicolon_not_mem (P : Primitives) (k : Keys) (kind : Kind) (s : Subject) (iat : Int) :
    ';' ∉ (k.issueAt P kind s iat).toList := by
  have hd : ∀ n < 64, Base64.url.digit n ≠ ';' := by decide
  intro hc
  rw [issueAt, String.toList_ofList] at hc
  rcases mem_written hc with he | ⟨n, hn, he⟩
  · exact absurd he (by decide)
  · exact hd n hn he.symm

theorem Token.Keys.issueAt_ne_nil (P : Primitives) (k : Keys) (kind : Kind) (s : Subject) (iat : Int) :
    (k.issueAt P kind s iat).toList ≠ [] := by
  simp [issueAt, written]

theorem Bytes.ofText_eq_flatMap (s : String) : ofText s = s.toList.flatMap String.utf8EncodeChar := by
  have hs : s.toUTF8 = s.toList.utf8Encode := by
    conv_lhs => rw [← String.ofList_toList (s := s)]
    exact String.toByteArray_ofList
  rw [ofText, hs, List.utf8Encode, List.data_toByteArray]

namespace Http

theorem utf8EncodeChar_ascii {c : Char} (h : c.toNat < 128) : String.utf8EncodeChar c = [Bytes.ascii c] := by
  have h1 : c.utf8Size = 1 := Char.utf8Size_eq_one_iff.mpr (UInt32.le_iff_toNat_le.mpr (Nat.le_of_lt_succ h))
  rw [String.utf8EncodeChar_eq_singleton h1]
  rfl

theorem ofText_plain {s : String} (h : Text.Plain s) : Bytes.ofText s = s.toList.map Bytes.ascii := by
  have he : ∀ c ∈ s.toList, String.utf8EncodeChar c = [Bytes.ascii c] := by
    intro c hc
    have hb := h c hc
    exact utf8EncodeChar_ascii (by omega)
  rw [Bytes.ofText_eq_flatMap, List.flatMap_congr he, ← List.map_eq_flatMap]

theorem sendable_plain {s : String} (h : Text.Plain s) : Cookie.sendable s = s := by
  have hs : isSendable s = true := by
    rw [isSendable, ofText_plain h, List.all_map, List.all_eq_true]
    intro c hc
    obtain ⟨hl, hh⟩ := h c hc
    have hn : (Bytes.ascii c).toNat = c.toNat := Bytes.toNat_ascii (by omega)
    have hd : Bytes.ascii c ≠ 127 := by
      intro he
      rw [he] at hn
      exact absurd hn (by simp; omega)
    simp only [Function.comp_apply, Bool.or_eq_true, Bool.and_eq_true, decide_eq_true_eq, bne_iff_ne]
    exact .inr ⟨by rw [UInt8.le_iff_toNat_le, hn]; exact hl, hd⟩
  rw [Cookie.sendable, if_pos hs]

namespace Cookie

theorem plain_attributes {c : Cookie} (hp : Text.Plain c.path) : Text.Plain c.attributes := by
  have hf : Text.Plain ((if c.httpOnly then "; HttpOnly" else "") ++ if c.secure then "; Secure" else "") := by
    cases c.httpOnly
    all_goals cases c.secure
    all_goals decide
  have hs : Text.Plain ("; SameSite=" ++ c.sameSite.text) := by
    cases c.sameSite
    all_goals decide
  have hp : Text.Plain ("; Path=" ++ c.path) := .append (by decide) hp
  simpa only [attributes, String.append_assoc] using (hf.append hs).append hp

theorem plain_store {c : Cookie} {v : String} (hn : Text.Plain c.name) (hp : Text.Plain c.path)
    (hv : Text.Plain v) : Text.Plain (c.store v) := by
  have he : Text.Plain (c.name ++ "=") := hn.append (by decide)
  have ha : Text.Plain (c.name ++ "=" ++ v ++ c.attributes) := (he.append hv).append (plain_attributes hp)
  cases hm : c.maxAge with
  | none =>
    have hs : c.store v = c.name ++ "=" ++ v ++ c.attributes ++ "" := by rw [store, hm]
    exact hs ▸ ha.append (by decide)
  | some n =>
    have hs : c.store v = c.name ++ "=" ++ v ++ c.attributes ++ ("; Max-Age=" ++ toString n) := by rw [store, hm]
    exact hs ▸ ha.append (.append (by decide) (.integer n))

/-- What a browser keeps of a cookie to send it back. -/
theorem takeWhile_store {c : Cookie} {v : String} (hn : ';' ∉ c.name.toList) (hv : ';' ∉ v.toList) :
    (c.store v).toList.takeWhile (· ≠ ';') = c.name.toList ++ '=' :: v.toList := by
  have ha : ∃ r, c.attributes.toList = ';' :: r := by
    unfold attributes
    cases c.httpOnly
    all_goals cases c.secure
    all_goals simp
  obtain ⟨r, hr⟩ := ha
  have hp : ∀ x ∈ c.name.toList ++ '=' :: v.toList, decide (x ≠ ';') = true := by
    intro x hx
    rw [decide_eq_true_eq]
    rintro rfl
    rcases List.mem_append.mp hx with hx | hx
    · exact hn hx
    · rcases List.mem_cons.mp hx with hx | hx
      · exact absurd hx (by decide)
      · exact hv hx
  obtain ⟨t, ht⟩ : ∃ t, c.store v = c.name ++ "=" ++ v ++ c.attributes ++ t := ⟨_, rfl⟩
  have hs : (c.store v).toList = (c.name.toList ++ '=' :: v.toList) ++ ';' :: (r ++ t.toList) := by
    simp [ht, hr]
  rw [hs, List.takeWhile_append_of_pos hp, List.takeWhile_cons_of_neg (by decide), List.append_nil]

end Cookie

/-- Name and value of a cookie as it is sent. -/
abbrev Crumb := List Char × List Char

namespace Crumb

def text (c : Crumb) : List Char := c.1 ++ '=' :: c.2

/-- A cookie that can be told from what stands around it. -/
structure Bare (c : Crumb) : Prop where
  name : '=' ∉ c.1
  whole : ';' ∉ c.text
  trimmed : Text.trim c.text = c.text

/-- A part of a header that holds a cookie with blanks around it. -/
def In (c : Crumb) (part : List Char) : Prop :=
  ∃ l r, part = l ++ c.text ++ r ∧ (∀ x ∈ l, Text.isBlank x = true) ∧ ∀ x ∈ r, Text.isBlank x = true

variable {c : Crumb} {part : List Char}

/-- A token under a name. -/
theorem bare_issueAt {name : String} (hs : ∀ x ∈ name.toList, x ≠ ';' ∧ x ≠ '=' ∧ Text.isBlank x = false)
    (P : Primitives) (k : Token.Keys) (kind : Token.Kind) (s : Token.Subject) (iat : Int) :
    Bare (name.toList, (k.issueAt P kind s iat).toList) := by
  have hw : ∀ x ∈ text (name.toList, (k.issueAt P kind s iat).toList), x ≠ ';' ∧ Text.isBlank x = false := by
    intro x hx
    simp only [text, List.mem_append, List.mem_cons] at hx
    rcases hx with hx | rfl | hx
    · exact ⟨(hs x hx).1, (hs x hx).2.2⟩
    · decide
    · refine ⟨?_, (Account.token_char hx).1⟩
      rintro rfl
      exact Token.Keys.semicolon_not_mem P k kind s iat hx
  refine ⟨?_, ?_, ?_⟩
  · intro h
    exact (hs '=' h).2.1 rfl
  · intro h
    exact (hw ';' h).1 rfl
  · refine Text.trim_of_none_blank ?_
    intro x hx
    exact (hw x hx).2

theorem Bare.pair? (hc : c.Bare) (h : c.In part) : Cookie.pair? part = some c := by
  obtain ⟨l, r, rfl, hl, hr⟩ := h
  rw [Cookie.pair?, Text.trim_append hl hr, hc.trimmed]
  exact Text.cut?_append hc.name c.2

theorem Bare.not_mem (hc : c.Bare) (h : c.In part) : ';' ∉ part := by
  obtain ⟨l, r, rfl, hl, hr⟩ := h
  have hb : Text.isBlank ';' ≠ true := by decide
  simp only [List.mem_append, not_or]
  exact ⟨⟨fun hm => hb (hl _ hm), hc.whole⟩, fun hm => hb (hr _ hm)⟩

end Crumb

/-- Values of Cookie headers with these cookies in them, in order.  A value that is no text has none. -/
inductive Carry : List Bytes → List Crumb → Prop where
  | nil : Carry [] []
  | text {v parts cs vs ds} (hv : valueText? v = some (Text.joined ';' parts))
    (hp : List.Forall₂ Crumb.In cs parts) (h : Carry vs ds) : Carry (v :: vs) (cs ++ ds)
  | other {v vs cs} (hv : valueText? v = none) (h : Carry vs cs) : Carry (v :: vs) cs

namespace Cookie

variable {h : Headers} {vs : List Bytes} {cs : List Crumb} {parts : List (List Char)} {name : String}
  {value : List Char}

theorem filterMap_pair? (hp : List.Forall₂ Crumb.In cs parts) (hb : ∀ c ∈ cs, Crumb.Bare c) :
    parts.filterMap pair? = cs ∧ ∀ p ∈ parts, ';' ∉ p := by
  induction hp with
  | nil => exact ⟨rfl, by simp⟩
  | @cons c p cs ps hi _ ih =>
    have hc : Crumb.Bare c := hb c List.mem_cons_self
    obtain ⟨he, hs⟩ := ih fun c hc => hb c (List.mem_cons_of_mem _ hc)
    refine ⟨by rw [List.filterMap_cons_some (hc.pair? hi), he], ?_⟩
    rw [List.forall_mem_cons]
    exact ⟨hc.not_mem hi, hs⟩

theorem pairs_joined (hp : List.Forall₂ Crumb.In cs parts) (hb : ∀ c ∈ cs, Crumb.Bare c) :
    pairs (Text.joined ';' parts) = cs := by
  obtain ⟨he, hs⟩ := filterMap_pair? hp hb
  cases hp with
  | nil => rfl
  | cons => rw [pairs, Text.parts_joined hs (by simp), he]

theorem pairs_carry (hc : Carry vs cs) (hb : ∀ c ∈ cs, Crumb.Bare c) :
    (vs.filterMap valueText?).flatMap pairs = cs := by
  induction hc with
  | nil => rfl
  | text hv hp _ ih =>
    have hl := pairs_joined hp fun c hc => hb c (List.mem_append_left _ hc)
    have hr := ih fun c hc => hb c (List.mem_append_right _ hc)
    rw [List.filterMap_cons_some hv, List.flatMap_cons, hl, hr]
  | other hv _ ih => rw [List.filterMap_cons_none hv, ih hb]

/-- The first cookie of a name with a value is found. -/
theorem find?_carry (hc : Carry (h.all "cookie") cs) (hb : ∀ c ∈ cs, Crumb.Bare c) :
    find? h name =
      (cs.find? fun c => c.1 == name.toList && !c.2.isEmpty).map fun c => String.ofList c.2 := by
  rw [find?, pairs_carry hc hb]

/-- What a browser keeps of a stored cookie comes back in the Cookie headers, among cookies with other
names. -/
def SentBack (stored name : String) (h : Headers) : Prop :=
  ∃ (before after : List Crumb) (value : List Char),
    stored.toList.takeWhile (· ≠ ';') = Crumb.text (name.toList, value) ∧
    Carry (h.all "cookie") (before ++ (name.toList, value) :: after) ∧
    ∀ c ∈ before ++ after, Crumb.Bare c ∧ c.1 ≠ name.toList

theorem find?_sentBack {c : Cookie} {v : String} (hb : Crumb.Bare (c.name.toList, v.toList))
    (hv : v.toList ≠ []) (hs : SentBack (c.store v) c.name h) : find? h c.name = some v := by
  obtain ⟨before, after, value, ht, hc, ho⟩ := hs
  have hw := hb.whole
  simp only [Crumb.text, List.mem_append, List.mem_cons, not_or] at hw
  rw [takeWhile_store hw.1 hw.2.2] at ht
  obtain rfl : v.toList = value := by simpa [Crumb.text] using ht
  have ha : ∀ x ∈ before ++ (c.name.toList, v.toList) :: after, Crumb.Bare x := by
    intro x hx
    rcases List.mem_append.mp hx with hx | hx
    · exact (ho x (List.mem_append_left _ hx)).1
    · rcases List.mem_cons.mp hx with rfl | hx
      · exact hb
      · exact (ho x (List.mem_append_right _ hx)).1
  have hf : before.find? (fun x => x.1 == c.name.toList && !x.2.isEmpty) = none := by
    rw [List.find?_eq_none]
    intro x hx
    simp [(ho x (List.mem_append_left _ hx)).2]
  rw [find?_carry hc ha, List.find?_append, hf, Option.none_or, List.find?_cons_of_pos]
  · simp
  · simp [hv]

end Cookie
end Http
end Storefront
