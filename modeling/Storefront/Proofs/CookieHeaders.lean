import Mathlib.Data.List.Forall2
import Storefront.Proofs.Cookies

namespace Storefront

namespace Http

/-- A character that may stand in a header: a printable one of ASCII or a tab. -/
def IsVisible (c : Char) : Prop := c = '\t' ∨ (32 ≤ c.toNat ∧ c.toNat < 127)

instance (c : Char) : Decidable (IsVisible c) := inferInstanceAs (Decidable (_ ∨ _))

/-- All characters may stand in a header. -/
def Visible (s : List Char) : Prop := ∀ c ∈ s, IsVisible c

instance (s : List Char) : Decidable (Visible s) := List.decidableBAll _ s

/-- Only the bytes of ASCII have seven bits. -/
theorem exists_high_byte {c : Char} (h : 128 ≤ c.toNat) : ∃ b ∈ String.utf8EncodeChar c, 128 ≤ b.toNat := by
  have h0 : c.utf8Size ≠ 1 := by
    rw [ne_eq, Char.utf8Size_eq_one_iff, UInt32.le_iff_toNat_le]
    exact Nat.not_le_of_lt h
  have hor (x : UInt8) {y : UInt8} (hy : 128 ≤ y.toNat) : 128 ≤ (x ||| y).toNat := by
    rw [UInt8.toNat_or]
    exact Nat.le_trans hy Nat.right_le_or
  rcases Char.utf8Size_eq c with h1 | h2 | h3 | h4
  · exact absurd h1 h0
  · rw [String.utf8EncodeChar_eq_cons_cons h2]
    exact ⟨_, List.mem_cons_self, hor _ (by decide)⟩
  · rw [String.utf8EncodeChar_eq_cons_cons_cons h3]
    exact ⟨_, List.mem_cons_self, hor _ (by decide)⟩
  · rw [String.utf8EncodeChar_eq_cons_cons_cons_cons h4]
    exact ⟨_, List.mem_cons_self, hor _ (by decide)⟩

theorem isTextByte_ascii {c : Char} (h : c.toNat < 128) : isTextByte (Bytes.ascii c) = true ↔ IsVisible c := by
  have hn : (Bytes.ascii c).toNat = c.toNat := Bytes.toNat_ascii (by omega)
  have ht : Bytes.ascii c = 9 ↔ c = '\t' := by
    rw [← UInt8.toNat_inj, hn, ← Char.toNat_inj]
    rfl
  simp [isTextByte, IsVisible, UInt8.le_iff_toNat_le, UInt8.lt_iff_toNat_lt, hn, ht]

theorem IsVisible.lt {c : Char} (h : IsVisible c) : c.toNat < 128 := by
  rcases h with rfl | h
  · decide
  · omega

/-- A value is text if all its characters are visible, and else it is none. -/
theorem valueText?_ofText (s : String) :
    valueText? (Bytes.ofText s) = if Visible s.toList then some s.toList else none := by
  rw [Bytes.ofText_eq_flatMap]
  by_cases hv : Visible s.toList
  · have he : ∀ c ∈ s.toList, String.utf8EncodeChar c = [Bytes.ascii c] := fun c hc =>
      utf8EncodeChar_ascii (hv c hc).lt
    rw [if_pos hv, List.flatMap_congr he, ← List.map_eq_flatMap]
    apply Account.valueText?_ascii
    intro c hc
    have hl := (hv c hc).lt
    refine ⟨(isTextByte_ascii hl).mpr (hv c hc), ?_⟩
    have hn : (Bytes.ascii c).toNat = c.toNat := Bytes.toNat_ascii (by omega)
    rw [hn, Char.ofNat_toNat]
  · rw [if_neg hv, valueText?, if_neg]
    intro ha
    apply hv
    intro c hc
    have hb : ∀ b ∈ String.utf8EncodeChar c, isTextByte b = true := fun b hb =>
      List.all_eq_true.mp ha b (List.mem_flatMap.mpr ⟨c, hc, hb⟩)
    by_cases hl : c.toNat < 128
    · rw [utf8EncodeChar_ascii hl] at hb
      exact (isTextByte_ascii hl).mp (hb _ List.mem_cons_self)
    · obtain ⟨b, hm, hh⟩ := exists_high_byte (Nat.not_lt.mp hl)
      have ht := hb b hm
      simp [isTextByte, UInt8.le_iff_toNat_le, UInt8.lt_iff_toNat_lt, ← UInt8.toNat_inj] at ht
      omega

namespace Crumb

variable {c : Crumb}

/-- A name and a value that can be told from what stands around them. -/
structure WellFormed (c : Crumb) : Prop where
  name : '=' ∉ c.1 ∧ ';' ∉ c.1 ∧ Text.trim c.1 = c.1
  value : ';' ∉ c.2 ∧ Text.trim c.2 = c.2

instance (c : Crumb) : Decidable c.WellFormed :=
  decidable_of_iff (('=' ∉ c.1 ∧ ';' ∉ c.1 ∧ Text.trim c.1 = c.1) ∧ ';' ∉ c.2 ∧ Text.trim c.2 = c.2)
    ⟨fun h => ⟨h.1, h.2⟩, fun h => ⟨h.1, h.2⟩⟩

theorem trim_text (hn : Text.trim c.1 = c.1) (hv : Text.trim c.2 = c.2) : Text.trim c.text = c.text := by
  have he : Text.isBlank '=' = false := by decide
  apply Text.trim_eq_self
  · intro x hx
    cases hc : c.1 with
    | nil =>
      obtain rfl : '=' = x := by simpa [text, hc] using hx
      exact he
    | cons y r =>
      apply Text.trim_head (s := c.1)
      rw [hn]
      simpa [text, hc] using hx
  · intro x hx
    by_cases hc : c.2 = []
    · obtain rfl : '=' = x := by simpa [text, hc] using hx
      exact he
    · apply Text.trim_last (s := c.2)
      have ht : c.text = c.1 ++ ['='] ++ c.2 := by simp [text]
      rw [ht, List.getLast?_append_of_ne_nil _ hc] at hx
      rwa [hv]

theorem WellFormed.bare (h : c.WellFormed) : c.Bare := by
  obtain ⟨⟨he, hs, hn⟩, hsv, hv⟩ := h
  refine ⟨he, ?_, trim_text hn hv⟩
  simp [text, hs, hsv]

/-- The name of a cookie ends at the first equals sign. -/
theorem text_inj {c d : Crumb} (hc : '=' ∉ c.1) (hd : '=' ∉ d.1) (h : c.text = d.text) : c = d := by
  have ht := Text.cut?_append hc c.2
  have hu := Text.cut?_append hd d.2
  rw [show c.1 ++ '=' :: c.2 = d.1 ++ '=' :: d.2 from h, hu] at ht
  exact (Option.some.inj ht).symm

end Crumb

/-- A cookie in a header, with the blanks before and behind it. -/
structure Piece where
  before : List Char
  cookie : Crumb
  behind : List Char

namespace Piece

def text (p : Piece) : List Char := p.before ++ p.cookie.text ++ p.behind

structure WellFormed (p : Piece) : Prop where
  before : ∀ c ∈ p.before, Text.isBlank c = true
  cookie : p.cookie.WellFormed
  behind : ∀ c ∈ p.behind, Text.isBlank c = true

instance (p : Piece) : Decidable p.WellFormed :=
  decidable_of_iff (p.before.all Text.isBlank = true ∧ p.cookie.WellFormed ∧ p.behind.all Text.isBlank = true)
    ⟨fun h => ⟨List.all_eq_true.mp h.1, h.2.1, List.all_eq_true.mp h.2.2⟩,
      fun h => ⟨List.all_eq_true.mpr h.before, h.cookie, List.all_eq_true.mpr h.behind⟩⟩

theorem WellFormed.part {p : Piece} (h : p.WellFormed) : p.cookie.In p.text :=
  ⟨p.before, p.behind, rfl, h.before, h.behind⟩

end Piece

/-- What is sent in a Cookie header: cookies with semicolons between them, or something that is no text. -/
inductive Sheet where
  | cookies (ps : List Piece)
  | other (v : Bytes)

namespace Sheet

def text (ps : List Piece) : List Char := Text.joined ';' (ps.map Piece.text)

def value : Sheet → Bytes
  | .cookies ps => Bytes.ofText (String.ofList (text ps))
  | .other v => v

/-- The cookies that can be seen: all of a header, or none if a character in it is not visible. -/
def seen : Sheet → List Crumb
  | .cookies ps => if Visible (text ps) then ps.map Piece.cookie else []
  | .other _ => []

def WellFormed : Sheet → Prop
  | .cookies ps => ∀ p ∈ ps, p.WellFormed
  | .other v => valueText? v = none

instance : (s : Sheet) → Decidable s.WellFormed
  | .cookies ps => List.decidableBAll _ ps
  | .other v => inferInstanceAs (Decidable (valueText? v = none))

variable {sheets : List Sheet}

/-- Only what is visible is carried to the server. -/
theorem carry (hw : ∀ s ∈ sheets, s.WellFormed) : Carry (sheets.map value) (sheets.flatMap seen) := by
  induction sheets with
  | nil => exact .nil
  | cons s sheets ih =>
    obtain ⟨hs, hw⟩ := List.forall_mem_cons.mp hw
    have ih := ih hw
    rw [List.map_cons, List.flatMap_cons]
    cases s with
    | other v => exact .other hs ih
    | cookies ps =>
      have ht := valueText?_ofText (String.ofList (text ps))
      rw [String.toList_ofList] at ht
      by_cases hv : Visible (text ps)
      · rw [if_pos hv] at ht
        rw [seen, if_pos hv]
        refine .text ht ?_ ih
        rw [List.forall₂_map_left_iff, List.forall₂_map_right_iff, List.forall₂_same]
        exact fun p hp => (hs p hp).part
      · rw [if_neg hv] at ht
        rw [seen, if_neg hv]
        exact .other ht ih

theorem wellFormed_of_seen (hw : ∀ s ∈ sheets, s.WellFormed) : ∀ c ∈ sheets.flatMap seen, c.WellFormed := by
  intro c hc
  obtain ⟨s, hs, hc⟩ := List.mem_flatMap.mp hc
  have hs := hw s hs
  cases s with
  | other v => cases hc
  | cookies ps =>
    by_cases hv : Visible (text ps)
    · rw [seen, if_pos hv] at hc
      obtain ⟨p, hp, rfl⟩ := List.mem_map.mp hc
      exact (hs p hp).cookie
    · rw [seen, if_neg hv] at hc
      cases hc

end Sheet

namespace Cookie

variable {h : Headers} {sheets : List Sheet}

theorem find?_seen (hv : h.all "cookie" = sheets.map Sheet.value) (hw : ∀ s ∈ sheets, s.WellFormed)
    (name : String) : find? h name =
      ((sheets.flatMap Sheet.seen).find? fun c => c.1 = name.toList ∧ c.2 ≠ []).map fun c => String.ofList c.2 := by
  have hc : Carry (h.all "cookie") (sheets.flatMap Sheet.seen) := hv ▸ Sheet.carry hw
  rw [find?_carry hc fun c hc => (Sheet.wellFormed_of_seen hw c hc).bare]
  congr 2
  funext c
  have he : c.2.isEmpty = decide (c.2 = []) := by cases c.2 <;> simp
  simp [he, Bool.beq_eq_decide_eq]

/-- What a browser keeps of a cookie that was stored is found again behind cookies with other names. -/
theorem find?_kept {c : Cookie} {v : String} {before after : List Crumb} {crumb : Crumb}
    (hv : h.all "cookie" = sheets.map Sheet.value) (hw : ∀ s ∈ sheets, s.WellFormed)
    (hc : Crumb.WellFormed (c.name.toList, v.toList)) (hn : v ≠ "")
    (hs : sheets.flatMap Sheet.seen = before ++ crumb :: after)
    (ht : crumb.text = (c.store v).toList.takeWhile (· ≠ ';')) (hb : ∀ x ∈ before, x.1 ≠ c.name.toList) :
    find? h c.name = some v := by
  have hm : crumb ∈ sheets.flatMap Sheet.seen := by simp [hs]
  obtain rfl : crumb = (c.name.toList, v.toList) := by
    refine Crumb.text_inj (Sheet.wellFormed_of_seen hw crumb hm).name.1 hc.name.1 ?_
    rw [ht, takeWhile_store hc.name.2.1 hc.value.1]
    rfl
  have hf : before.find? (fun x => decide (x.1 = c.name.toList ∧ x.2 ≠ [])) = none := by
    rw [List.find?_eq_none]
    intro x hx
    simp [hb x hx]
  rw [find?_seen hv hw, hs, List.find?_append, hf]
  simp [hn]

/-- Of the cookies in all headers that can be seen, the first one of a name with a value is found.  So is the value
of a cookie that was stored, whatever equals signs are in it, if no cookie of its name stands in front. -/
theorem found_as_sent (hv : h.all "cookie" = sheets.map Sheet.value) (hw : ∀ s ∈ sheets, s.WellFormed) :
    (∀ name : String, find? h name =
      ((sheets.flatMap Sheet.seen).find? fun c => c.1 = name.toList ∧ c.2 ≠ []).map fun c => String.ofList c.2) ∧
    ∀ (c : Cookie) (v : String) (before after : List Crumb) (crumb : Crumb),
      Crumb.WellFormed (c.name.toList, v.toList) → v ≠ "" → sheets.flatMap Sheet.seen = before ++ crumb :: after →
      crumb.text = (c.store v).toList.takeWhile (· ≠ ';') → (∀ x ∈ before, x.1 ≠ c.name.toList) →
      find? h c.name = some v := by
  refine ⟨find?_seen hv hw, ?_⟩
  intro c v before after crumb hc hn hs ht hb
  exact find?_kept hv hw hc hn hs ht hb

section Jar

/-- Two headers with cookies, and one that is no text between them. -/
def jar : List Sheet :=
  [.cookies [⟨[], ("theme".toList, "dark".toList), [' ']⟩, ⟨['\t'], ("lang".toList, []), []⟩], .other [0xff],
    .cookies [⟨[' '], (refreshName.toList, "a=b=".toList), []⟩, ⟨[], ("lang".toList, "en".toList), [' ', ' ']⟩,
      ⟨[], (refreshName.toList, "c".toList), []⟩]]

def jarHeaders : Headers := ("accept", []) :: jar.map fun s => ("Cookie", s.value)

theorem jar_found :
    jarHeaders.all "cookie" = jar.map Sheet.value ∧ (∀ s ∈ jar, s.WellFormed) ∧
      find? jarHeaders "lang" = some "en" ∧ find? jarHeaders "size" = none ∧
      find? jarHeaders refreshName = some "a=b=" := by
  have hv : jarHeaders.all "cookie" = jar.map Sheet.value := rfl
  have hw : ∀ s ∈ jar, s.WellFormed :=
    List.forall_mem_cons.mpr ⟨by decide, List.forall_mem_cons.mpr ⟨rfl, List.forall_mem_singleton.mpr (by decide)⟩⟩
  obtain ⟨hf, hk⟩ := found_as_sent hv hw
  refine ⟨hv, hw, ?_, ?_, ?_⟩
  · rw [hf]
    decide
  · rw [hf]
    decide
  · refine hk standard "a=b=" [("theme".toList, "dark".toList), ("lang".toList, [])]
      [("lang".toList, "en".toList), (refreshName.toList, "c".toList)] (refreshName.toList, "a=b=".toList)
      (by decide) (by decide) ?_ ?_ (by decide)
    · decide
    · decide

/-- A cookie that is not in ASCII is not found. -/
theorem plain_cookie_fails :
    Crumb.WellFormed ("theme".toList, "café".toList) ∧
      Sheet.value (.cookies [⟨[], ("theme".toList, "café".toList), []⟩]) = Bytes.ofText "theme=café" ∧
      find? [("cookie", Bytes.ofText "theme=café")] "theme" = none := by
  refine ⟨by decide, rfl, ?_⟩
  decide

end Jar

end Cookie
end Http
end Storefront
