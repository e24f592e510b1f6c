import Storefront.Proofs.Canonical
import Storefront.Proofs.Tables

namespace Storefront.Text.Case

open Table

-- the text of a table becomes a list of that many characters
set_option maxRecDepth 40000 in
/-- What belongs to a character has no form of its own, is no capital letter from A to Z and no capital sigma; and
neither of the small sigmas has a form. -/
theorem lowerForms_images : ∃ l, lowerForms = Table.read (String.ofList l) ∧
    (covered (scanned l) ||| span 0x41 0x5A ||| span 0x3A3 0x3A3) &&& union ((scanned l).map imaged) = 0 ∧
    covered (scanned l) &&& span 0x3C2 0x3C3 = 0 := ⟨_, rfl, by decide +kernel⟩

set_option maxRecDepth 40000 in
/-- Letters are not ignorable. -/
theorem ignorable_letters : ∃ l, ignorable = Table.read (String.ofList l) ∧
    (span 0x41 0x5A ||| span 0x61 0x7A) &&& covered (scanned l) = 0 := ⟨_, rfl, by decide +kernel⟩

/-- A character that lower case leaves alone, and no capital letter from A to Z. -/
structure Settled (c : Char) : Prop where
  form : lowerForm c = [c]
  sigma : c ≠ 'Σ'
  small : ¬(65 ≤ c.toNat ∧ c.toNat ≤ 90)

theorem settled_ascii {c : Char} (hc : c.toNat < 0x80) (h : ¬(65 ≤ c.toNat ∧ c.toNat ≤ 90)) : Settled c := by
  refine ⟨?_, ?_, h⟩
  · rw [lowerForm, if_pos hc, toLower_of_small h]
  · rintro rfl
    exact absurd hc (by decide)

theorem settled_toLower {c : Char} (hc : c.toNat < 0x80) : Settled c.toLower := by
  by_cases h : 65 ≤ c.toNat ∧ c.toNat ≤ 90
  · have hn := toNat_toLower h
    exact settled_ascii (by omega) (by omega)
  · rw [toLower_of_small h]
    exact settled_ascii hc h

theorem settled_of_none {c : Char} (hc : 0x80 ≤ c.toNat) (hs : c ≠ 'Σ') (h : lowerForms.find? c = none) :
    Settled c := by
  refine ⟨?_, hs, by omega⟩
  rw [lowerForm, if_neg (by omega), Table.image?, h]
  rfl

theorem settled_sigmas : Settled 'σ' ∧ Settled 'ς' := by
  obtain ⟨l, hl, -, hs⟩ := lowerForms_images
  have hn (c : Char) (hc : 0x3C2 ≤ c.toNat ∧ c.toNat ≤ 0x3C3) : lowerForms.find? c = none := by
    rw [hl]
    exact find?_eq_none fun h => testBit_of_land hs h (testBit_span.mpr hc)
  exact ⟨settled_of_none (by decide) (by decide) (hn _ (by decide)),
    settled_of_none (by decide) (by decide) (hn _ (by decide))⟩

theorem settled_of_image? {c d : Char} {ds : List Char} (h : lowerForms.image? c = some ds) (hd : d ∈ ds) :
    Settled d := by
  obtain ⟨l, hl, hi, -⟩ := lowerForms_images
  rw [hl] at h
  obtain ⟨n, rfl, hn⟩ := imaged_of_image? h hd
  have ho (m : Nat) (hm : (covered (scanned l) ||| span 0x41 0x5A ||| span 0x3A3 0x3A3).testBit m = true) :
      n ≠ m := by
    rintro rfl
    exact testBit_of_land hi hm hn
  simp only [Nat.testBit_or, Bool.or_eq_true, testBit_span] at ho
  have hd : (Char.ofNat n).toNat = n ∨ (Char.ofNat n).toNat = 0 := by
    by_cases hv : n.isValidChar
    · rw [Char.ofNat, dif_pos hv]
      exact .inl rfl
    · rw [Char.ofNat, dif_neg hv]
      exact .inr rfl
  have hsmall : ¬(65 ≤ (Char.ofNat n).toNat ∧ (Char.ofNat n).toNat ≤ 90) := by
    intro hc
    exact ho n (.inl (.inr (by omega))) rfl
  by_cases ha : (Char.ofNat n).toNat < 0x80
  · exact settled_ascii ha hsmall
  · have he : (Char.ofNat n).toNat = n := by omega
    refine settled_of_none (by omega) ?_ ?_
    · intro hs
      have hv : 'Σ'.toNat = 0x3A3 := by decide
      rw [hs, hv] at he
      exact ho n (.inr (by omega)) rfl
    · rw [hl]
      apply find?_eq_none
      rw [he]
      exact fun hc => ho n (.inl (.inl hc)) rfl

theorem settled_of_mem_lowerForm {c d : Char} (hc : c ≠ 'Σ') (h : d ∈ lowerForm c) : Settled d := by
  unfold lowerForm at h
  split at h
  · rename_i ha
    rw [List.mem_singleton.mp h]
    exact settled_toLower ha
  · rename_i ha
    cases hi : lowerForms.image? c with
    | none =>
      rw [hi] at h
      obtain rfl := List.mem_singleton.mp h
      exact settled_of_none (by omega) hc (Option.map_eq_none_iff.mp hi)
    | some ds =>
      rw [hi] at h
      exact settled_of_image? hi h

theorem settled_lowerAfter {before s : List Char} {d : Char} (h : d ∈ lowerAfter before s) : Settled d := by
  induction s generalizing before with
  | nil => cases h
  | cons c s ih =>
    rw [lowerAfter] at h
    rcases List.mem_append.mp h with h | h
    · split at h
      · rw [List.mem_singleton.mp h]
        split
        · exact settled_sigmas.2
        · exact settled_sigmas.1
      · rename_i hc
        exact settled_of_mem_lowerForm hc h
    · exact ih h

theorem lowerAfter_settled {before s : List Char} (h : ∀ c ∈ s, Settled c) : lowerAfter before s = s := by
  induction s generalizing before with
  | nil => rfl
  | cons c s ih =>
    have hc : Settled c := h c List.mem_cons_self
    rw [lowerAfter, if_neg hc.sigma, hc.form, ih fun d hd => h d (List.mem_cons_of_mem _ hd),
      List.singleton_append]

theorem lower_lower (s : List Char) : lower (lower s) = lower s :=
  lowerAfter_settled fun _ hd => settled_lowerAfter hd

/-- No letter from A to Z is left. -/
theorem small_of_mem_lower {s : List Char} {c : Char} (h : c ∈ lower s) : ¬(65 ≤ c.toNat ∧ c.toNat ≤ 90) :=
  (settled_lowerAfter h).small

theorem mem_lowerAfter {before s : List Char} {c : Char} (hc : Settled c) (h : c ∈ s) :
    c ∈ lowerAfter before s := by
  induction s generalizing before with
  | nil => cases h
  | cons d s ih =>
    rw [lowerAfter, List.mem_append]
    rcases List.mem_cons.mp h with rfl | h
    · left
      rw [if_neg hc.sigma, hc.form]
      exact List.mem_singleton_self _
    · exact .inr (ih h)

/-- A letter from A to Z of either case. -/
def IsLetter (c : Char) : Prop := (65 ≤ c.toNat ∧ c.toNat ≤ 90) ∨ (97 ≤ c.toNat ∧ c.toNat ≤ 122)

/-- Only letters become the same. -/
theorem eq_or_letters {c d : Char} (h : c.toLower = d.toLower) : c = d ∨ (IsLetter c ∧ IsLetter d) := by
  have hn := congrArg Char.toNat h
  by_cases hc : 65 ≤ c.toNat ∧ c.toNat ≤ 90
  · right
    rw [toNat_toLower hc] at hn
    by_cases hd : 65 ≤ d.toNat ∧ d.toNat ≤ 90
    · exact ⟨.inl hc, .inl hd⟩
    · rw [toLower_of_small hd] at hn
      exact ⟨.inl hc, .inr (by omega)⟩
  · rw [toLower_of_small hc] at h hn
    by_cases hd : 65 ≤ d.toNat ∧ d.toNat ≤ 90
    · right
      rw [toNat_toLower hd] at hn
      exact ⟨.inr (by omega), .inl hd⟩
    · left
      rw [h, toLower_of_small hd]

theorem IsLetter.ascii {c : Char} (h : IsLetter c) : c.toNat < 0x80 := by
  rcases h with h | h
  · omega
  · omega

theorem IsLetter.not_ignorable {c : Char} (h : IsLetter c) : ignorable.covers c = false := by
  obtain ⟨l, hl, hi⟩ := ignorable_letters
  have hn : ignorable.find? c = none := by
    rw [hl]
    apply find?_eq_none
    apply testBit_of_land hi
    rw [Nat.testBit_or, Bool.or_eq_true, testBit_span, testBit_span]
    exact h
  rw [Table.covers, hn]
  rfl

theorem IsLetter.cased {c : Char} (h : IsLetter c) : isCased c = true := by
  have ha : c.toNat < 0x80 := h.ascii
  simp only [isCased, isLower, isUpper, ha, if_true, Bool.or_eq_true, Bool.and_eq_true, decide_eq_true_eq,
    Char.le_def, UInt32.le_iff_toNat_le]
  rcases h with h | h
  · exact .inl (.inr h)
  · exact .inl (.inl h)

-- for any test in place of the table, which would be evaluated
theorem match_dropWhile (p f : Char → Bool) (c : Char) (s : List Char) :
    (match (c :: s).dropWhile p with
      | [] => false
      | d :: _ => f d) =
      if p c then
        match s.dropWhile p with
        | [] => false
        | d :: _ => f d
      else f c := by
  by_cases h : p c = true
  · rw [List.dropWhile_cons_of_pos h, if_pos h]
  · rw [List.dropWhile_cons_of_neg h, if_neg h]

theorem meetsCased_cons (c : Char) (s : List Char) :
    meetsCased (c :: s) = if ignorable.covers c then meetsCased s else isCased c := by
  rw [meetsCased, meetsCased]
  exact match_dropWhile ignorable.covers isCased c s

/-- Texts that differ in the case of letters from A to Z alone. -/
def Alike (s t : List Char) : Prop := s.map Char.toLower = t.map Char.toLower

theorem Alike.cons_left {c : Char} {s t : List Char} (h : Alike (c :: s) t) :
    ∃ d u, t = d :: u ∧ c.toLower = d.toLower ∧ Alike s u := by
  obtain ⟨d, u, rfl, hd, hu⟩ := List.map_eq_cons_iff.mp h.symm
  exact ⟨d, u, rfl, hd.symm, hu.symm⟩

theorem Alike.nil_left {t : List Char} (h : Alike [] t) : t = [] := List.map_eq_nil_iff.mp h.symm

theorem Alike.meetsCased {s t : List Char} (h : Alike s t) : meetsCased s = meetsCased t := by
  induction s generalizing t with
  | nil => rw [h.nil_left]
  | cons c s ih =>
    obtain ⟨d, u, rfl, hd, hu⟩ := h.cons_left
    rw [meetsCased_cons, meetsCased_cons, ih hu]
    rcases eq_or_letters hd with rfl | ⟨hc, hd⟩
    · rfl
    · rw [hc.not_ignorable, hd.not_ignorable, hc.cased, hd.cased]

theorem lowerForm_congr {c d : Char} (h : c.toLower = d.toLower) : lowerForm c = lowerForm d := by
  rcases eq_or_letters h with rfl | ⟨hc, hd⟩
  · rfl
  · rw [lowerForm, lowerForm, if_pos hc.ascii, if_pos hd.ascii, h]

theorem sigma_congr {c d : Char} (h : c.toLower = d.toLower) : c = 'Σ' ↔ d = 'Σ' := by
  rcases eq_or_letters h with rfl | ⟨hc, hd⟩
  · exact Iff.rfl
  · have hs : ¬IsLetter 'Σ' := fun h => absurd h.ascii (by decide)
    constructor
    · rintro rfl
      exact absurd hc hs
    · rintro rfl
      exact absurd hd hs

theorem Alike.lowerAfter {b b' s t : List Char} (hb : Alike b b') (h : Alike s t) :
    lowerAfter b s = lowerAfter b' t := by
  induction s generalizing b b' t with
  | nil =>
    rw [h.nil_left]
    rfl
  | cons c s ih =>
    obtain ⟨d, u, rfl, hd, hu⟩ := h.cons_left
    have hn : Alike (c :: b) (d :: b') := congrArg₂ List.cons hd hb
    rw [Case.lowerAfter, Case.lowerAfter, ih hn hu, hb.meetsCased, hu.meetsCased, lowerForm_congr hd]
    simp only [sigma_congr hd]

/-- The case of letters from A to Z does not count. -/
theorem Alike.lower {s t : List Char} (h : Alike s t) : lower s = lower t := Alike.lowerAfter rfl h

end Storefront.Text.Case
