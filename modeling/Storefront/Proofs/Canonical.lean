import Mathlib.Data.List.DropRight
import Storefront.Account.DisplayName
import Storefront.Account.Email

namespace Storefront

namespace Text

theorem trim_eq (s : List Char) : trim s = (s.dropWhile isBlank).rdropWhile isBlank := rfl

/-- Only blanks at an end are taken away. -/
theorem trim_eq_self {s : List Char} (hh : ∀ c ∈ s.head?, isBlank c = false)
    (hl : ∀ c ∈ s.getLast?, isBlank c = false) : trim s = s := by
  have hf : s.dropWhile isBlank = s := by
    cases s with
    | nil => rfl
    | cons c r => simp [hh c rfl]
  rw [trim_eq, hf, List.rdropWhile_eq_self_iff]
  intro hn
  simpa using hl _ (List.getLast?_eq_some_getLast hn)

theorem trim_head {s : List Char} : ∀ c ∈ (trim s).head?, isBlank c = false := by
  intro c hc
  have hp : trim s <+: s.dropWhile isBlank := List.rdropWhile_prefix _ _
  have hd := List.head?_dropWhile_not isBlank s
  obtain ⟨r, hr⟩ := hp
  cases ht : trim s with
  | nil => simp [ht] at hc
  | cons a t =>
    rw [ht] at hc hr
    obtain rfl : a = c := by simpa using hc
    rw [← hr] at hd
    simpa using hd

theorem trim_last {s : List Char} : ∀ c ∈ (trim s).getLast?, isBlank c = false := by
  intro c hc
  have hn : (s.dropWhile isBlank).rdropWhile isBlank ≠ [] := by
    intro h
    rw [trim_eq, h] at hc
    cases hc
  have hl := List.rdropWhile_last_not isBlank _ hn
  rw [trim_eq, List.getLast?_eq_some_getLast hn] at hc
  obtain rfl : _ = c := Option.some.inj hc
  simpa using hl

theorem trim_trim (s : List Char) : trim (trim s) = trim s := trim_eq_self trim_head trim_last

end Text

namespace Text

theorem trim_of_none_blank {s : List Char} (h : ∀ c ∈ s, isBlank c = false) : trim s = s :=
  trim_eq_self (fun c hc => h c (List.mem_of_mem_head? hc))
    (fun c hc => h c (List.mem_of_mem_getLast? hc))

/-- More blanks around a text make no difference. -/
theorem trim_append {l s r : List Char} (hl : ∀ c ∈ l, isBlank c = true) (hr : ∀ c ∈ r, isBlank c = true) :
    trim (l ++ s ++ r) = trim s := by
  rw [trim, trim, List.append_assoc, List.dropWhile_append_of_pos hl, List.dropWhile_append]
  cases hs : s.dropWhile isBlank with
  | nil => simp [List.dropWhile_eq_nil_iff.mpr hr]
  | cons c t =>
    rw [if_neg (by simp), List.reverse_append, List.dropWhile_append_of_pos (by simpa using hr)]

theorem mem_joined {sep c : Char} {ps : List (List Char)} (h : c ∈ joined sep ps) :
    c = sep ∨ ∃ p ∈ ps, c ∈ p := by
  induction ps with
  | nil => cases h
  | cons p ps ih =>
    cases ps with
    | nil => exact .inr ⟨p, by simp, h⟩
    | cons q qs =>
      rcases List.mem_append.mp h with hp | hr
      · exact .inr ⟨p, by simp, hp⟩
      · rcases List.mem_cons.mp hr with hs | hr
        · exact .inl hs
        · rcases ih hr with hs | ⟨t, ht, hc⟩
          · exact .inl hs
          · exact .inr ⟨t, List.mem_cons_of_mem _ ht, hc⟩

end Text

namespace Account

theorem DisplayName.parse_text {s : String} {n : DisplayName} (h : DisplayName.parse s = .ok n) :
    DisplayName.parse n.text = .ok n := by
  simp only [DisplayName.parse] at h
  split at h
  · cases h
  · rename_i he
    split at h
    · cases h
    · rename_i hl
      split at h
      · cases h
      · rename_i hc
        cases h
        simp [DisplayName.parse, Text.trim_trim, he, hl, hc]

namespace Email

theorem alphanumeric_not_blank {c : Char} (h : isAsciiAlphanumeric c = true) :
    Text.isBlank c = false := by
  simp only [isAsciiAlphanumeric, Bool.or_eq_true, Bool.and_eq_true, decide_eq_true_eq,
    Char.le_def, UInt32.le_iff_toNat_le] at h
  simp only [Text.isBlank, Bool.or_eq_false_iff, Bool.and_eq_false_iff, decide_eq_false_iff_not,
    beq_eq_false_iff_ne, Char.toNat]
  simp only [Char.reduceVal, UInt32.reduceToNat] at h
  omega

theorem domain_not_blank {d : List Char} (h : isDomain d = true) {c : Char} (hc : c ∈ d) :
    Text.isBlank c = false := by
  simp only [isDomain, Bool.and_eq_true, List.all_eq_true] at h
  rw [← Text.joined_parts '.' d] at hc
  rcases Text.mem_joined hc with rfl | ⟨l, hl, hm⟩
  · decide
  · have hw := h.2 l hl
    simp only [isLabel, Bool.and_eq_true, List.all_eq_true, Bool.or_eq_true, beq_iff_eq] at hw
    rcases hw.2 c hm with ha | rfl
    · exact alphanumeric_not_blank ha
    · decide

theorem wellFormed_not_blank {e : List Char} (h : isWellFormed e = true) {c : Char} (hc : c ∈ e) :
    Text.isBlank c = false := by
  unfold isWellFormed at h
  split at h
  · cases h
  · rename_i l d hcut
    simp only [Bool.and_eq_true, isLocal, List.all_eq_true, Bool.not_eq_true'] at h
    obtain ⟨⟨⟨_, hl⟩, _⟩, hd⟩ := h
    obtain ⟨rfl, _⟩ := Text.cut?_eq_some hcut
    rcases List.mem_append.mp hc with hm | hm
    · exact (hl c hm).1
    · rcases List.mem_cons.mp hm with rfl | hm
      · decide
      · exact domain_not_blank hd hm

/-- An address that was taken is taken again as it is, if lower case of lower case is nothing new. -/
theorem parse_text {P : Primitives} (hP : ∀ t, P.lower (P.lower t) = P.lower t) {s : String}
    {e : Email} (h : parse P s = .ok e) : parse P e.text = .ok e := by
  simp only [parse] at h
  split at h
  · cases h
  · rename_i he
    split at h
    · cases h
    · rename_i hl
      split at h
      · rename_i hw
        cases h
        have ht := Text.trim_of_none_blank fun c hc => wellFormed_not_blank hw hc
        simp [parse, ht, hP, he, hl, hw]
      · cases h

end Email

end Account

namespace Text.Case

theorem capital_iff {c : Char} : (c.val ≥ 'A'.val ∧ c.val ≤ 'Z'.val) ↔ 65 ≤ c.toNat ∧ c.toNat ≤ 90 := by
  simp only [ge_iff_le, UInt32.le_iff_toNat_le]
  exact Iff.rfl

/-- Only capital letters have another one in lower case. -/
theorem toLower_of_small {c : Char} (h : ¬(65 ≤ c.toNat ∧ c.toNat ≤ 90)) : c.toLower = c :=
  dif_neg (mt capital_iff.mp h)

theorem toNat_toLower {c : Char} (h : 65 ≤ c.toNat ∧ c.toNat ≤ 90) : c.toLower.toNat = c.toNat + 32 := by
  have hv : c.toLower.val = c.val + 32 := congrArg Char.val (dif_pos (capital_iff.mpr h))
  have ht : c.toLower.toNat = (c.toNat + 32) % 2 ^ 32 := by
    rw [Char.toNat, hv, UInt32.toNat_add]
    rfl
  omega

theorem toLower_toLower (c : Char) : c.toLower.toLower = c.toLower := by
  by_cases h : 65 ≤ c.toNat ∧ c.toNat ≤ 90
  · have hn := toNat_toLower h
    exact toLower_of_small (by omega)
  · rw [toLower_of_small h, toLower_of_small h]

end Text.Case

/-- What the standard functions are on ASCII texts, without the tables of Unicode. -/
def Primitives.ascii : Primitives :=
  { Primitives.standard with lower := Text.Case.lowerAscii, normal := id }

/-- Passwords are kept as they are, in place of a hash that takes long to compute. -/
def Primitives.legible : Primitives :=
  { ascii with
    hashPassword := fun salt p => Bytes.toHex (salt ++ p)
    verifyPassword := fun h p => h == Bytes.toHex p }

theorem Primitives.ascii_lower_lower (t : List Char) : ascii.lower (ascii.lower t) = ascii.lower t := by
  change (t.map Char.toLower).map Char.toLower = t.map Char.toLower
  rw [List.map_map]
  exact List.map_congr_left fun c _ => Text.Case.toLower_toLower c

end Storefront
