import Storefront.Proofs.LowerCase
import Storefront.Proofs.Tokens

namespace Storefront

namespace Text

theorem mem_joined_of_mem {sep c : Char} {p : List Char} {ps : List (List Char)} (hp : p ∈ ps) (hc : c ∈ p) :
    c ∈ joined sep ps := by
  induction ps with
  | nil => cases hp
  | cons q ps ih =>
    cases ps with
    | nil =>
      obtain rfl := List.mem_singleton.mp hp
      exact hc
    | cons r rs =>
      rw [joined, List.mem_append]
      rcases List.mem_cons.mp hp with rfl | hp
      · exact .inl hc
      · exact .inr (List.mem_cons_of_mem _ (ih hp))
      · simp

theorem mem_of_mem_parts {sep c : Char} {p s : List Char} (hp : p ∈ parts sep s) (hc : c ∈ p) : c ∈ s := by
  rw [← joined_parts sep s]
  exact mem_joined_of_mem hp hc

end Text

namespace Account.Email

/-- A letter from a to z, a digit or a hyphen. -/
def IsLabelChar (c : Char) : Prop := ('a' ≤ c ∧ c ≤ 'z') ∨ ('0' ≤ c ∧ c ≤ '9') ∨ c = '-'

instance : DecidablePred IsLabelChar := fun _ => inferInstanceAs (Decidable (_ ∨ _))

/-- A word of such characters that neither begins nor ends with a hyphen. -/
structure Label (l : List Char) : Prop where
  chars : ∀ c ∈ l, IsLabelChar c
  nonempty : l ≠ []
  first : l.head? ≠ some '-'
  last : l.getLast? ≠ some '-'

/-- Two labels or more with dots between them. -/
inductive Domain : List Char → Prop where
  | pair {a b} (ha : Label a) (hb : Label b) : Domain (a ++ '.' :: b)
  | label {a d} (ha : Label a) (hd : Domain d) : Domain (a ++ '.' :: d)

/-- What may stand in front of the at sign. -/
structure Mailbox (l : List Char) : Prop where
  nonempty : l ≠ []
  bytes : byteLength l ≤ 64
  chars : ∀ c ∈ l, c ≠ '@' ∧ Text.isBlank c = false ∧ Text.isControl c = false

/-- An address and its two parts. -/
structure Address (e l d : List Char) : Prop where
  text : e = l ++ '@' :: d
  bytes : byteLength e ≤ 254
  mailbox : Mailbox l
  domain : Domain d

variable {l d e a : List Char} {c : Char}

theorem Label.not_mem (h : Label l) {x : Char} (hx : ¬IsLabelChar x) : x ∉ l := fun hm => hx (h.chars x hm)

theorem not_isLabelChar_dot : ¬IsLabelChar '.' := by decide

theorem not_isLabelChar_at : ¬IsLabelChar '@' := by decide

/-- The reader knows capital letters as well. -/
theorem isLabelChar_iff (h : ¬(65 ≤ c.toNat ∧ c.toNat ≤ 90)) :
    (isAsciiAlphanumeric c || c == '-') = true ↔ IsLabelChar c := by
  have hc : ¬('A' ≤ c ∧ c ≤ 'Z') := h
  simp only [isAsciiAlphanumeric, IsLabelChar, Bool.or_eq_true, Bool.and_eq_true, decide_eq_true_eq, beq_iff_eq]
  tauto

theorem isLabel_iff (h : ∀ c ∈ l, ¬(65 ≤ c.toNat ∧ c.toNat ≤ 90)) : isLabel l = true ↔ Label l := by
  have hc : (l.all fun c => isAsciiAlphanumeric c || c == '-') = true ↔ ∀ c ∈ l, IsLabelChar c := by
    rw [List.all_eq_true]
    exact forall₂_congr fun c hm => isLabelChar_iff (h c hm)
  simp only [isLabel, Bool.and_eq_true, Bool.not_eq_true', List.isEmpty_eq_false_iff, bne_iff_ne, hc]
  constructor
  · rintro ⟨⟨⟨hn, hf⟩, hl⟩, hc⟩
    exact ⟨hc, hn, hf, hl⟩
  · intro hl
    exact ⟨⟨⟨hl.nonempty, hl.first⟩, hl.last⟩, hl.chars⟩

theorem IsLabelChar.small (h : IsLabelChar c) : ¬(65 ≤ c.toNat ∧ c.toNat ≤ 90) := by
  rcases h with ⟨h, -⟩ | ⟨-, h⟩ | rfl
  · have hc : 97 ≤ c.toNat := h
    omega
  · have hc : c.toNat ≤ 57 := h
    omega
  · decide

theorem Domain.parts (h : Domain d) :
    2 ≤ (Text.parts '.' d).length ∧ ∀ p ∈ Text.parts '.' d, Label p := by
  induction h with
  | @pair a b ha hb =>
    rw [Text.parts_append (ha.not_mem not_isLabelChar_dot),
      Text.parts_of_not_mem (hb.not_mem not_isLabelChar_dot)]
    exact ⟨Nat.le_refl 2, by simp [ha, hb]⟩
  | @label a d ha hd ih =>
    rw [Text.parts_append (ha.not_mem not_isLabelChar_dot), List.length_cons, List.forall_mem_cons]
    exact ⟨by omega, ha, ih.2⟩

theorem domain_joined {ps : List (List Char)} (hn : 2 ≤ ps.length) (hp : ∀ p ∈ ps, Label p) :
    Domain (Text.joined '.' ps) := by
  induction ps with
  | nil => cases hn
  | cons p ps ih =>
    obtain ⟨ha, hs⟩ := List.forall_mem_cons.mp hp
    match ps with
    | [] => exact absurd hn (by simp)
    | [q] => exact .pair ha (hs q List.mem_cons_self)
    | q :: r :: qs => exact .label ha (ih (by simp) hs)

theorem isDomain_iff (h : ∀ c ∈ d, ¬(65 ≤ c.toNat ∧ c.toNat ≤ 90)) : isDomain d = true ↔ Domain d := by
  simp only [isDomain, Bool.and_eq_true, decide_eq_true_eq, List.all_eq_true]
  constructor
  · rintro ⟨hn, hl⟩
    rw [← Text.joined_parts '.' d]
    refine domain_joined hn ?_
    intro p hp
    exact (isLabel_iff fun c hc => h c (Text.mem_of_mem_parts hp hc)).mp (hl p hp)
  · intro hd
    refine ⟨hd.parts.1, ?_⟩
    intro p hp
    have hl := hd.parts.2 p hp
    exact (isLabel_iff fun c hc => (hl.chars c hc).small).mpr hl

theorem Domain.not_at (h : Domain d) : '@' ∉ d := by
  intro hm
  rw [← Text.joined_parts '.' d] at hm
  rcases Text.mem_joined hm with hc | ⟨p, hp, hc⟩
  · exact absurd hc (by decide)
  · exact (h.parts.2 p hp).not_mem not_isLabelChar_at hc

theorem Mailbox.not_at (h : Mailbox l) : '@' ∉ l := fun hm => (h.chars '@' hm).1 rfl

theorem mailbox_iff (h : '@' ∉ l) : isLocal l = true ↔ Mailbox l := by
  simp only [isLocal, Bool.and_eq_true, Bool.not_eq_true', List.isEmpty_eq_false_iff,
    decide_eq_true_eq, List.all_eq_true]
  constructor
  · rintro ⟨⟨hn, hb⟩, hc⟩
    refine ⟨hn, hb, ?_⟩
    intro c hm
    refine ⟨?_, hc c hm⟩
    rintro rfl
    exact h hm
  · intro hl
    exact ⟨⟨hl.nonempty, hl.bytes⟩, fun c hm => (hl.chars c hm).2⟩

theorem isWellFormed_iff (h : ∀ c ∈ e, ¬(65 ≤ c.toNat ∧ c.toNat ≤ 90)) :
    isWellFormed e = true ↔ ∃ l d, e = l ++ '@' :: d ∧ Mailbox l ∧ Domain d := by
  constructor
  · intro hw
    unfold isWellFormed at hw
    split at hw
    · cases hw
    · rename_i l d hc
      obtain ⟨rfl, hl⟩ := Text.cut?_eq_some hc
      simp only [Bool.and_eq_true] at hw
      obtain ⟨⟨hm, -⟩, hd⟩ := hw
      refine ⟨l, d, rfl, (mailbox_iff hl).mp hm, (isDomain_iff ?_).mp hd⟩
      intro c hc
      exact h c (List.mem_append_right _ (List.mem_cons_of_mem _ hc))
  · rintro ⟨l, d, rfl, hl, hd⟩
    have hs : ∀ c ∈ d, ¬(65 ≤ c.toNat ∧ c.toNat ≤ 90) := by
      intro c hc
      exact h c (List.mem_append_right _ (List.mem_cons_of_mem _ hc))
    simp [isWellFormed, Text.cut?_append hl.not_at, (mailbox_iff hl.not_at).mpr hl, hd.not_at,
      (isDomain_iff hs).mpr hd]

theorem Address.domain_eq {x : Email} (h : Address x.text.toList l d) : x.domain = String.ofList d := by
  rw [Email.domain, h.text, Text.cut?_append h.mailbox.not_at]

theorem parse_eq_ok {P : Primitives} {s : String} {x : Email} :
    parse P s = .ok x ↔ x.text.toList = P.lower (Text.trim s.toList) ∧
      byteLength x.text.toList ≤ 254 ∧ isWellFormed x.text.toList = true := by
  simp only [parse]
  constructor
  · intro h
    split at h
    · cases h
    · split at h
      · cases h
      · rename_i hb
        split at h
        · rename_i hw
          cases h
          simp only [String.toList_ofList]
          exact ⟨trivial, Nat.not_lt.mp hb, hw⟩
        · cases h
  · rintro ⟨ht, hb, hw⟩
    rw [← ht]
    have hn : ¬x.text.toList.isEmpty = true := by
      intro hn
      rw [List.isEmpty_iff.mp hn] at hw
      exact absurd hw (by decide)
    have hm : ¬maxBytes < byteLength x.text.toList := Nat.not_lt.mpr hb
    rw [if_neg hn, if_neg hm, if_pos hw, String.ofList_toList]

/-- A text with other blanks around it and letters from A to Z in another case. -/
def Respelt (s t : List Char) : Prop :=
  ∃ before m after, t = before ++ m ++ after ∧ Text.Case.Alike s m ∧
    (∀ c ∈ before, Text.isBlank c = true) ∧ ∀ c ∈ after, Text.isBlank c = true

theorem isBlank_toLower (c : Char) : Text.isBlank c.toLower = Text.isBlank c := by
  by_cases h : 65 ≤ c.toNat ∧ c.toNat ≤ 90
  · have hl := Text.Case.toNat_toLower h
    have hb (x : Char) (hx : 65 ≤ x.toNat ∧ x.toNat ≤ 122) : Text.isBlank x = false := by
      simp only [Text.isBlank, Bool.or_eq_false_iff, Bool.and_eq_false_iff, decide_eq_false_iff_not,
        beq_eq_false_iff_ne]
      omega
    rw [hb c (by omega), hb c.toLower (by omega)]
  · rw [Text.Case.toLower_of_small h]

theorem trim_map (s : List Char) : Text.trim (s.map Char.toLower) = (Text.trim s).map Char.toLower := by
  have hb : Text.isBlank ∘ Char.toLower = Text.isBlank := funext isBlank_toLower
  simp only [Text.trim, List.dropWhile_map, hb, ← List.map_reverse]

theorem Respelt.lower {s t : List Char} (h : Respelt s t) :
    Text.Case.lower (Text.trim t) = Text.Case.lower (Text.trim s) := by
  obtain ⟨before, m, after, rfl, hm, hb, ha⟩ := h
  rw [Text.trim_append hb ha]
  apply Text.Case.Alike.lower
  rw [Text.Case.Alike, ← trim_map, ← trim_map, hm]

/-- A text is taken if its lower case without the blanks around it is an address of the grammar, and is kept as
that; the domain is the part behind the at sign.  What was taken is taken again as it is, and other spellings of a
text are taken or refused as the text is. -/
theorem parse_iff_address (s : String) :
    (∀ x : Email, parse .standard s = .ok x ↔
      x.text.toList = Text.Case.lower (Text.trim s.toList) ∧ ∃ l d, Address x.text.toList l d) ∧
    (∀ x : Email, parse .standard s = .ok x → parse .standard x.text = .ok x ∧
      ∀ l d, Address x.text.toList l d → x.domain = String.ofList d) ∧
    ∀ t : String, Respelt s.toList t.toList → parse .standard t = parse .standard s := by
  refine ⟨?_, ?_, ?_⟩
  · intro x
    rw [parse_eq_ok]
    refine and_congr_right fun ht => ?_
    have hs : ∀ c ∈ x.text.toList, ¬(65 ≤ c.toNat ∧ c.toNat ≤ 90) := by
      rw [ht]
      exact fun c hc => Text.Case.small_of_mem_lower hc
    rw [isWellFormed_iff hs]
    constructor
    · rintro ⟨hb, l, d, he, hl, hd⟩
      exact ⟨l, d, he, hb, hl, hd⟩
    · rintro ⟨l, d, ha⟩
      exact ⟨ha.bytes, l, d, ha.text, ha.mailbox, ha.domain⟩
  · intro x hx
    exact ⟨parse_text Text.Case.lower_lower hx, fun l d ha => ha.domain_eq⟩
  · intro t ht
    have he : Primitives.standard.lower (Text.trim t.toList) = Primitives.standard.lower (Text.trim s.toList) :=
      ht.lower
    simp only [parse, he]

/-- An address with capital letters and blanks around it, and another spelling of it. -/
theorem layla_taken :
    parse .standard "\tLayla@Shop.Example-1.COM " = .ok ⟨"layla@shop.example-1.com"⟩ ∧
      parse .standard "layla@shop.example-1.com" = .ok ⟨"layla@shop.example-1.com"⟩ ∧
      domain ⟨"layla@shop.example-1.com"⟩ = "shop.example-1.com" ∧
      parse .standard " LAYLA@shop.example-1.com" = .ok ⟨"layla@shop.example-1.com"⟩ := by
  have hl {l : List Char} (hc : l.all (IsLabelChar ·) = true) (h : l ≠ [] ∧ l.head? ≠ some '-' ∧
      l.getLast? ≠ some '-') : Label l :=
    ⟨fun c hm => of_decide_eq_true (List.all_eq_true.mp hc c hm), h.1, h.2.1, h.2.2⟩
  have hd : Domain ("shop".toList ++ '.' :: ("example-1".toList ++ '.' :: "com".toList)) :=
    .label (hl (by decide) (by decide)) (.pair (hl (by decide) (by decide)) (hl (by decide) (by decide)))
  have ha : Address "layla@shop.example-1.com".toList "layla".toList "shop.example-1.com".toList :=
    ⟨by decide, by decide, (mailbox_iff (by decide)).mp (by decide), hd⟩
  obtain ⟨ht, ho, hr⟩ := parse_iff_address "Layla@Shop.Example-1.COM"
  have hp : parse .standard "Layla@Shop.Example-1.COM" = .ok ⟨"layla@shop.example-1.com"⟩ :=
    (ht _).mpr ⟨by decide +kernel, _, _, ha⟩
  have hs : Respelt "Layla@Shop.Example-1.COM".toList "\tLayla@Shop.Example-1.COM ".toList :=
    ⟨['\t'], _, [' '], rfl, rfl, by simp [Text.isBlank], by simp [Text.isBlank]⟩
  have hs' : Respelt "Layla@Shop.Example-1.COM".toList " LAYLA@shop.example-1.com".toList :=
    ⟨[' '], "LAYLA@shop.example-1.com".toList, [], rfl, by unfold Text.Case.Alike; decide,
      by simp [Text.isBlank], List.forall_mem_nil _⟩
  exact ⟨(hr _ hs).trans hp, (ho _ hp).1, (ho _ hp).2 _ _ ha, (hr _ hs').trans hp⟩

end Account.Email
end Storefront
