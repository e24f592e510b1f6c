import Storefront.Password
import Storefront.Proofs.LowerCase

namespace Storefront

namespace Text

/-- What is left of a text with a character that is no blank. -/
theorem trim_ne_nil {s : List Char} {c : Char} (h : c ∈ s) (hc : isBlank c = false) : trim s ≠ [] := by
  intro ht
  rw [trim_eq, List.rdropWhile_eq_nil_iff] at ht
  rw [← List.takeWhile_append_dropWhile (p := isBlank) (l := s)] at h
  have hb : isBlank c = true := by
    rcases List.mem_append.mp h with h | h
    · exact List.mem_takeWhile_imp h
    · exact ht c h
  rw [hc] at hb
  cases hb

theorem occurs_iff {p s : List Char} : occurs p s = true ↔ p <:+: s := by
  induction s with
  | nil => simp [occurs]
  | cons c s ih => rw [occurs, Bool.or_eq_true, ih, List.infix_cons_iff, List.isPrefixOf_iff_prefix]

end Text

/-- Lower case does away with no digit and no special character. -/
def Primitives.KeepsMarks (P : Primitives) : Prop :=
  ∀ s, ∀ c ∈ s, Password.isDigit c = true ∨ Password.isSpecial c = true → c ∈ P.lower s

namespace Password

variable {P : Primitives} {n : List Char} {c : Char}

theorem Clear.new?_eq_ok {w : String} {p : Clear} :
    Clear.new? P w = .ok p ↔ violation? P (P.normal w.toList) = none ∧ p = .forVerification P w := by
  simp only [Clear.new?, Clear.forVerification]
  split
  · rename_i v hv
    simp [hv]
  · rename_i hv
    simp [hv, eq_comm]

theorem isDigit_iff : isDigit c = true ↔ 48 ≤ c.toNat ∧ c.toNat ≤ 57 := by
  simp only [isDigit, Bool.and_eq_true, decide_eq_true_eq, Char.le_def, UInt32.le_iff_toNat_le]
  exact Iff.rfl

theorem digit_not_blank (h : isDigit c = true) : Text.isBlank c = false := by
  have hb := isDigit_iff.mp h
  simp only [Text.isBlank, Bool.or_eq_false_iff, Bool.and_eq_false_iff, decide_eq_false_iff_not,
    beq_eq_false_iff_ne]
  omega

theorem mem_specials (h : isSpecial c = true) : c ∈ specials := List.contains_iff_mem.mp h

theorem special_not_digit (h : isSpecial c = true) : isDigit c = false := by
  have hs : specials.all (fun d => !isDigit d) = true := by decide
  simpa using List.all_eq_true.mp hs c (mem_specials h)

/-- Marks have no case. -/
theorem settled_mark (h : isDigit c = true ∨ isSpecial c = true) : Text.Case.Settled c := by
  have hs : specials.all (fun d => d.toNat < 0x80 ∧ ¬(65 ≤ d.toNat ∧ d.toNat ≤ 90)) = true := by decide
  rcases h with h | h
  · have hb := isDigit_iff.mp h
    exact Text.Case.settled_ascii (by omega) (by omega)
  · obtain ⟨ha, hc⟩ := of_decide_eq_true (List.all_eq_true.mp hs c (mem_specials h))
    exact Text.Case.settled_ascii ha hc

theorem keepsMarks_of_lower (h : P.lower = Text.Case.lower) : P.KeepsMarks := by
  intro s c hc hm
  rw [h]
  exact Text.Case.mem_lowerAfter (settled_mark hm) hc

theorem isRepetition_eq_false {a b : Char} (ha : a ∈ n) (hb : b ∈ n) (h : a ≠ b) : isRepetition n = false := by
  cases n with
  | nil => cases ha
  | cons c r =>
    rw [← Bool.not_eq_true, isRepetition, List.all_eq_true]
    intro hr
    have he : ∀ x ∈ c :: r, x = c := List.forall_mem_cons.mpr ⟨rfl, fun x hx => beq_iff_eq.mp (hr x hx)⟩
    exact h ((he a ha).trans (he b hb).symm)

theorem isSequence_eq_false (hc : c ∈ n) (h : isDigit c = false) : isSequence n = false := by
  have ha : n.all isDigit = false := List.all_eq_false.mpr ⟨c, hc, by simp [h]⟩
  simp [isSequence, ha]

/-- A password without its special characters. -/
def plain (n : List Char) : List Char := n.filter fun c => !isSpecial c

theorem digit_mem_plain (hc : c ∈ n) (h : isDigit c = true) : c ∈ plain n := by
  refine List.mem_filter.mpr ⟨hc, ?_⟩
  rw [Bool.not_eq_true', ← Bool.not_eq_true]
  intro hs
  rw [special_not_digit hs] at h
  cases h

/-- The well-known passwords with a digit in them. -/
def numbered : List (List Char) :=
  ["password1".toList, "password12".toList, "password123".toList, "welcome1".toList, "welcome123".toList,
   "admin123".toList, "iloveyou1".toList, "trustno1".toList]

theorem mem_numbered {w : List Char} : w ∈ numbered ↔ w ∈ commonPasswords ∧ w.any isDigit = true := by
  have h : numbered = commonPasswords.filter (·.any isDigit) := by decide +kernel
  rw [h, List.mem_filter]

theorem common_iff (hc : c ∈ n) (h : isDigit c = true) : plain n ∈ commonPasswords ↔ plain n ∈ numbered := by
  rw [mem_numbered]
  exact (and_iff_left (List.any_eq_true.mpr ⟨c, digit_mem_plain hc h, h⟩)).symm

/-- What a new password in normal form must be like. -/
structure Strong (P : Primitives) (n : List Char) : Prop where
  long : 8 ≤ n.length
  short : n.length ≤ 128
  controls : ∀ c ∈ n, Text.isControl c = true → c = '\t' ∨ c = '\n'
  lowercase : ∃ c ∈ n, Text.Case.isLower c = true
  uppercase : ∃ c ∈ n, Text.Case.isUpper c = true
  digit : ∃ c ∈ n, isDigit c = true
  special : ∃ c ∈ n, isSpecial c = true
  keyboard : ∀ k ∈ keyboardPatterns, ¬k <:+: P.lower n
  unknown : plain (P.lower n) ∉ numbered

theorem missingClass_eq_none : missingClass n = none ↔
    (∃ c ∈ n, Text.Case.isLower c = true) ∧ (∃ c ∈ n, Text.Case.isUpper c = true) ∧
      (∃ c ∈ n, isDigit c = true) ∧ ∃ c ∈ n, isSpecial c = true := by
  simp only [← List.any_eq_true]
  cases hl : n.any Text.Case.isLower
  · simp [missingClass, hl]
  · cases hu : n.any Text.Case.isUpper
    · simp [missingClass, hl, hu]
    · cases hd : n.any isDigit
      · simp [missingClass, hl, hu, hd]
      · cases hs : n.any isSpecial
        · simp [missingClass, hl, hu, hd, hs]
        · simp [missingClass, hl, hu, hd, hs]

theorem any_refusedControl : n.any refusedControl = false ↔
    ∀ c ∈ n, Text.isControl c = true → c = '\t' ∨ c = '\n' := by
  rw [List.any_eq_false]
  refine forall₂_congr fun c _ => ?_
  simp only [refusedControl, Bool.and_eq_true, bne_iff_ne, not_and, not_not]
  constructor
  · intro h hc
    by_cases ht : c = '\t'
    · exact .inl ht
    · exact .inr (h ⟨hc, ht⟩)
  · rintro h ⟨hc, ht⟩
    exact (h hc).resolve_left ht

/-- Only the keyboard patterns and the numbered passwords matter to a password with a digit and a special
character. -/
theorem isCommon_eq_false (hd : ∃ c ∈ n, isDigit c = true) (hs : ∃ c ∈ n, isSpecial c = true) :
    isRepetition n = false ∧ isSequence n = false ∧
      (isCommon n = false ↔ (∀ k ∈ keyboardPatterns, ¬k <:+: n) ∧ plain n ∉ numbered) := by
  obtain ⟨d, hd, hdd⟩ := hd
  obtain ⟨s, hs, hss⟩ := hs
  have hn : isDigit s = false := special_not_digit hss
  have hne : d ≠ s := by
    rintro rfl
    rw [hdd] at hn
    cases hn
  have hr := isRepetition_eq_false hd hs hne
  have hq := isSequence_eq_false hs hn
  refine ⟨hr, hq, ?_⟩
  have hc : commonPasswords.contains (plain n) = false ↔ plain n ∉ numbered := by
    rw [← Bool.not_eq_true, List.contains_iff_mem, common_iff hd hdd]
  have hk : (keyboardPatterns.any fun k => Text.occurs k n) = false ↔ ∀ k ∈ keyboardPatterns, ¬k <:+: n := by
    simp only [List.any_eq_false, Text.occurs_iff]
  rw [isCommon, hr, hq, Bool.false_or, Bool.false_or, Bool.or_eq_false_iff, hk]
  exact and_congr_right fun _ => hc

/-- The tests one after the other. -/
theorem violation?_eq_none : violation? P n = none ↔ Text.trim n ≠ [] ∧ 8 ≤ n.length ∧ n.length ≤ 128 ∧
    n.any refusedControl = false ∧ missingClass n = none ∧ isCommon (P.lower n) = false := by
  unfold violation? minLength maxLength
  by_cases ht : Text.trim n = []
  · simp [ht]
  rw [if_neg (by simpa using ht)]
  by_cases hl : n.length < 8
  · simp [hl, Nat.not_le.mpr hl]
  by_cases hm : 128 < n.length
  · rw [if_neg hl, if_pos hm]
    simp [Nat.not_le.mpr hm]
  rw [if_neg hl, if_neg hm]
  by_cases hc : n.any refusedControl = true
  · simp [hc]
  rw [if_neg hc]
  cases missingClass n with
  | some c => simp
  | none => simp [ht, hc, Nat.not_lt.mp hl, Nat.not_lt.mp hm]

/-- A password with marks has them in its lower case. -/
theorem marks_lower (hP : P.KeepsMarks) (hd : ∃ c ∈ n, isDigit c = true) (hs : ∃ c ∈ n, isSpecial c = true) :
    (∃ c ∈ P.lower n, isDigit c = true) ∧ ∃ c ∈ P.lower n, isSpecial c = true := by
  obtain ⟨d, hd, hdd⟩ := hd
  obtain ⟨s, hs, hss⟩ := hs
  exact ⟨⟨d, hP n d hd (.inl hdd), hdd⟩, s, hP n s hs (.inr hss), hss⟩

theorem Strong.not_blank (h : Strong P n) : Text.trim n ≠ [] := by
  obtain ⟨d, hd, hdd⟩ := h.digit
  exact Text.trim_ne_nil hd (digit_not_blank hdd)

theorem Strong.not_common (hP : P.KeepsMarks) (h : Strong P n) :
    isRepetition (P.lower n) = false ∧ isSequence (P.lower n) = false ∧
      plain (P.lower n) ∉ commonPasswords ∧ isCommon (P.lower n) = false := by
  obtain ⟨hd, hs⟩ := marks_lower hP h.digit h.special
  obtain ⟨hr, hq, hc⟩ := isCommon_eq_false hd hs
  obtain ⟨d, hd, hdd⟩ := hd
  exact ⟨hr, hq, mt (common_iff hd hdd).mp h.unknown, hc.mpr ⟨h.keyboard, h.unknown⟩⟩

theorem strong_iff (hP : P.KeepsMarks) : violation? P n = none ↔ Strong P n := by
  rw [violation?_eq_none, any_refusedControl, missingClass_eq_none]
  constructor
  · rintro ⟨-, hl, hm, hc, ⟨hlow, hup, hd, hs⟩, hn⟩
    obtain ⟨hd', hs'⟩ := marks_lower hP hd hs
    obtain ⟨hk, hu⟩ := (isCommon_eq_false hd' hs').2.2.mp hn
    exact ⟨hl, hm, hc, hlow, hup, hd, hs, hk, hu⟩
  · intro h
    exact ⟨h.not_blank, h.long, h.short, h.controls, ⟨h.lowercase, h.uppercase, h.digit, h.special⟩,
      (h.not_common hP).2.2.2⟩

/-- A new password is taken in its normal form, if that is strong.  A strong password is not blank, and its lower
case is no repetition, no sequence of digits, and without special characters no well-known password at all: these
tests alone refuse nothing. -/
theorem Clear.new?_iff_strong (hP : P.KeepsMarks) (raw : String) :
    (∀ c : Clear, Clear.new? P raw = .ok c ↔
      c.chars = P.normal raw.toList ∧ Strong P (P.normal raw.toList)) ∧
    (Strong P (P.normal raw.toList) →
      Text.trim (P.normal raw.toList) ≠ [] ∧ isRepetition (P.lower (P.normal raw.toList)) = false ∧
        isSequence (P.lower (P.normal raw.toList)) = false ∧
        ∀ w ∈ commonPasswords, plain (P.lower (P.normal raw.toList)) ≠ w) := by
  refine ⟨?_, ?_⟩
  · rintro ⟨chars⟩
    rw [Clear.new?_eq_ok, strong_iff hP, and_comm, Clear.forVerification, Clear.mk.injEq]
  · intro h
    obtain ⟨hr, hq, hc, -⟩ := h.not_common hP
    refine ⟨h.not_blank, hr, hq, ?_⟩
    rintro w hw rfl
    exact hc hw

/-- The functions that run, for texts that are in normal form. -/
def normalTexts : Primitives := { Primitives.standard with normal := id }

theorem normalTexts_policy : normalTexts.KeepsMarks ∧
    Clear.new? normalTexts "Cafe-Noir\t1931" = .ok ⟨"Cafe-Noir\t1931".toList⟩ ∧
    (∀ c, Clear.new? normalTexts "!Trust<No>1!" ≠ .ok c) ∧ ∀ c, Clear.new? normalTexts "QwErTy_7é" ≠ .ok c := by
  have hP : normalTexts.KeepsMarks := keepsMarks_of_lower rfl
  refine ⟨hP, ?_, ?_, ?_⟩
  · refine ((Clear.new?_iff_strong hP _).1 _).mpr ⟨rfl, ?_⟩
    have hc : "Cafe-Noir\t1931".toList.any refusedControl = false := by decide +kernel
    have hm : missingClass "Cafe-Noir\t1931".toList = none := by decide +kernel
    obtain ⟨hl, hu, hd, hs⟩ := missingClass_eq_none.mp hm
    exact ⟨by decide, by decide, any_refusedControl.mp hc, hl, hu, hd, hs, by decide +kernel,
      by decide +kernel⟩
  · intro c hc
    exact absurd (((Clear.new?_iff_strong hP _).1 c).mp hc).2.unknown (by decide +kernel)
  · intro c hc
    exact absurd (((Clear.new?_iff_strong hP _).1 c).mp hc).2.keyboard (by decide +kernel)

end Password
end Storefront
