import Mathlib.Algebra.Group.Nat.Defs
import Storefront.Bytes.Base64
import Storefront.Decimal.Integer
import Storefront.Proofs.Canonical
import Storefront.Uuid

namespace Storefront

namespace Base64

/-- Every digit stands for its own number. -/
def Alphabet.Lawful (a : Alphabet) : Prop := ∀ n < 64, a.value? (a.digit n) = some n

theorem url_lawful : url.Lawful := by
  unfold Alphabet.Lawful
  decide

theorem url_digit_ne_dot : ∀ n < 64, url.digit n ≠ '.' := by decide

theorem toUInt8_of_toNat {n : Nat} {x : UInt8} (h : n = x.toNat) : n.toUInt8 = x := by
  subst h
  exact UInt8.ofNat_toNat

theorem decode?_encode {a : Alphabet} (h : a.Lawful) (b : Bytes) :
    decode? a (encode a b) = some b := by
  induction b using encode.induct with
  | case1 => rfl
  | case2 x =>
    have hx := x.toNat_lt
    have h₁ := h (x.toNat / 4) (by omega)
    have h₂ := h (x.toNat % 4 * 16) (by omega)
    have e₁ : (x.toNat / 4 * 4 + x.toNat % 4 * 16 / 16).toUInt8 = x :=
      toUInt8_of_toNat (by omega)
    have hz : x.toNat % 4 * 16 % 16 = 0 := by omega
    simp only [encode, decode?, h₁, h₂, Option.bind_eq_bind, Option.bind_some, hz, if_true, e₁]
  | case3 x y =>
    have hx := x.toNat_lt
    have hy := y.toNat_lt
    have h₁ := h (x.toNat / 4) (by omega)
    have h₂ := h (x.toNat % 4 * 16 + y.toNat / 16) (by omega)
    have h₃ := h (y.toNat % 16 * 4) (by omega)
    have e₁ : (x.toNat / 4 * 4 + (x.toNat % 4 * 16 + y.toNat / 16) / 16).toUInt8 = x :=
      toUInt8_of_toNat (by omega)
    have e₂ : ((x.toNat % 4 * 16 + y.toNat / 16) % 16 * 16 + y.toNat % 16 * 4 / 4).toUInt8 = y :=
      toUInt8_of_toNat (by omega)
    have hz : y.toNat % 16 * 4 % 4 = 0 := by omega
    simp only [encode, decode?, h₁, h₂, h₃, Option.bind_eq_bind, Option.bind_some, hz, if_true, e₁, e₂]
  | case4 x y z r ih =>
    have hx := x.toNat_lt
    have hy := y.toNat_lt
    have hz := z.toNat_lt
    have h₁ := h (x.toNat / 4) (by omega)
    have h₂ := h (x.toNat % 4 * 16 + y.toNat / 16) (by omega)
    have h₃ := h (y.toNat % 16 * 4 + z.toNat / 64) (by omega)
    have h₄ := h (z.toNat % 64) (by omega)
    have e₁ : (x.toNat / 4 * 4 + (x.toNat % 4 * 16 + y.toNat / 16) / 16).toUInt8 = x :=
      toUInt8_of_toNat (by omega)
    have e₂ : ((x.toNat % 4 * 16 + y.toNat / 16) % 16 * 16 +
        (y.toNat % 16 * 4 + z.toNat / 64) / 4).toUInt8 = y :=
      toUInt8_of_toNat (by omega)
    have e₃ : ((y.toNat % 16 * 4 + z.toNat / 64) % 4 * 64 + z.toNat % 64).toUInt8 = z :=
      toUInt8_of_toNat (by omega)
    simp only [encode, decode?, h₁, h₂, h₃, h₄, ih, Option.bind_eq_bind, Option.bind_some, e₁, e₂, e₃]

theorem mem_encode {a : Alphabet} {b : Bytes} {c : Char} (h : c ∈ encode a b) :
    ∃ n < 64, c = a.digit n := by
  induction b using encode.induct with
  | case1 => cases h
  | case2 x =>
    have hx := x.toNat_lt
    simp only [encode, List.mem_cons, List.not_mem_nil, or_false] at h
    rcases h with rfl | rfl
    · exact ⟨_, by omega, rfl⟩
    · exact ⟨_, by omega, rfl⟩
  | case3 x y =>
    have hx := x.toNat_lt
    have hy := y.toNat_lt
    simp only [encode, List.mem_cons, List.not_mem_nil, or_false] at h
    rcases h with rfl | rfl | rfl
    · exact ⟨_, by omega, rfl⟩
    · exact ⟨_, by omega, rfl⟩
    · exact ⟨_, by omega, rfl⟩
  | case4 x y z r ih =>
    have hx := x.toNat_lt
    have hy := y.toNat_lt
    have hz := z.toNat_lt
    simp only [encode, List.mem_cons] at h
    rcases h with rfl | rfl | rfl | rfl | h
    · exact ⟨_, by omega, rfl⟩
    · exact ⟨_, by omega, rfl⟩
    · exact ⟨_, by omega, rfl⟩
    · exact ⟨_, by omega, rfl⟩
    · exact ih h

theorem length_encode (a : Alphabet) (b : Bytes) : (encode a b).length = (4 * b.length + 2) / 3 := by
  induction b using encode.induct with
  | case1 => rfl
  | case2 x => simp [encode]
  | case3 x y => simp [encode]
  | case4 x y z r ih =>
    simp only [encode, List.length_cons, ih]
    omega

end Base64

namespace Decimal

theorem naturalDigits_of_lt {n : Nat} (h : n < 10) : naturalDigits n = [n.digitChar] :=
  Nat.toDigits_of_lt_base h

theorem naturalDigits_of_le {n : Nat} (h : 10 ≤ n) :
    naturalDigits n = naturalDigits (n / 10) ++ [(n % 10).digitChar] :=
  Nat.toDigits_of_base_le (by omega) h

theorem mem_naturalDigits {n : Nat} {c : Char} (h : c ∈ naturalDigits n) : c.isDigit = true :=
  Nat.isDigit_of_mem_toDigits (by omega) (by omega) h

/-- The first digit of a number is no zero, unless the number is. -/
theorem naturalDigits_cons {n : Nat} (h : 0 < n) : ∃ c r, naturalDigits n = c :: r ∧ c ≠ '0' := by
  induction n using Nat.strongRecOn with
  | ind n ih =>
    by_cases hn : n < 10
    · have hd : ∀ m < 10, 0 < m → m.digitChar ≠ '0' := by decide
      exact ⟨_, [], naturalDigits_of_lt hn, hd n hn h⟩
    · obtain ⟨c, r, he, hc⟩ := ih (n / 10) (by omega) (by omega)
      refine ⟨c, r ++ [(n % 10).digitChar], ?_, hc⟩
      rw [naturalDigits_of_le (by omega), he, List.cons_append]

/-- How a number may be written: a plus sign and zeros may stand in front of its digits. -/
def Spells (s : List Char) (n : Nat) : Prop :=
  ∃ plus ∈ [[], ['+']], ∃ zeros, s = plus ++ (List.replicate zeros '0' ++ naturalDigits n)

theorem digitValue?_digitChar : ∀ n < 10, digitValue? n.digitChar = some n := by decide

theorem digitChar_of_digitValue? {c : Char} {n : Nat} (h : digitValue? c = some n) :
    n < 10 ∧ c = n.digitChar := by
  simp only [digitValue?, Option.ite_none_right_eq_some, Option.some.injEq] at h
  obtain ⟨⟨hl, hh⟩, rfl⟩ := h
  have hd : ∀ m < 10, Char.ofNat (m + 48) = m.digitChar := by decide
  rw [Char.le_def, UInt32.le_iff_toNat_le] at hl hh
  have hl : 48 ≤ c.toNat := hl
  have hh : c.toNat ≤ 57 := hh
  refine ⟨by omega, ?_⟩
  rw [← hd _ (by omega), Nat.sub_add_cancel hl, Char.ofNat_toNat]

theorem digitsFrom?_append (m : Nat) (s t : List Char) :
    digitsFrom? m (s ++ t) = (digitsFrom? m s).bind fun m => digitsFrom? m t := by
  induction s generalizing m with
  | nil => rfl
  | cons c s ih =>
    cases h : digitValue? c with
    | none => simp [digitsFrom?, h]
    | some v => simp [digitsFrom?, h, ih]

theorem digitsFrom?_zeros (n : Nat) : digitsFrom? 0 (List.replicate n '0') = some 0 := by
  induction n with
  | zero => rfl
  | succ n ih =>
    have hz : digitValue? '0' = some 0 := digitValue?_digitChar 0 (by omega)
    simp [List.replicate_succ, digitsFrom?, hz, ih]

theorem digitsFrom?_naturalDigits (n : Nat) : digitsFrom? 0 (naturalDigits n) = some n := by
  induction n using Nat.strongRecOn with
  | ind n ih =>
    by_cases hn : n < 10
    · simp [naturalDigits_of_lt hn, digitsFrom?, digitValue?_digitChar n hn]
    · have hd : digitValue? (n % 10).digitChar = some (n % 10) := digitValue?_digitChar _ (by omega)
      have hs : 10 * (n / 10) + n % 10 = n := by omega
      simp [naturalDigits_of_le (Nat.not_lt.mp hn), digitsFrom?_append, ih (n / 10) (by omega), digitsFrom?, hd, hs]

/-- Digits that are read as a number are its own, with zeros in front. -/
theorem eq_of_digitsFrom? {s : List Char} {n : Nat} (hs : s ≠ []) (h : digitsFrom? 0 s = some n) :
    ∃ zeros, s = List.replicate zeros '0' ++ naturalDigits n := by
  induction s using List.reverseRecOn generalizing n with
  | nil => exact absurd rfl hs
  | append_singleton s c ih =>
    rw [digitsFrom?_append] at h
    obtain ⟨m, hm, hc⟩ := Option.bind_eq_some_iff.mp h
    cases hd : digitValue? c with
    | none => simp [digitsFrom?, hd] at hc
    | some v =>
      obtain ⟨hv, rfl⟩ := digitChar_of_digitValue? hd
      obtain rfl : 10 * m + v = n := by simpa [digitsFrom?, hd] using hc
      by_cases hn : s = []
      · subst hn
        obtain rfl : 0 = m := by simpa [digitsFrom?] using hm
        exact ⟨0, by simp [naturalDigits_of_lt hv]⟩
      · obtain ⟨zeros, rfl⟩ := ih hn hm
        by_cases hz : m = 0
        · subst hz
          have hw : naturalDigits 0 = ['0'] := rfl
          refine ⟨zeros + 1, ?_⟩
          rw [Nat.mul_zero, Nat.zero_add, naturalDigits_of_lt hv, hw, List.replicate_succ']
        · have hq : (10 * m + v) / 10 = m := by omega
          have hr : (10 * m + v) % 10 = v := by omega
          refine ⟨zeros, ?_⟩
          rw [naturalDigits_of_le (by omega : 10 ≤ 10 * m + v), hq, hr, List.append_assoc]

theorem digitsFrom?_of_digits (zeros n : Nat) :
    digitsFrom? 0 (List.replicate zeros '0' ++ naturalDigits n) = some n := by
  simp [digitsFrom?_append, digitsFrom?_zeros, digitsFrom?_naturalDigits]

theorem natural?_eq_some {s : List Char} {n : Nat} :
    natural? s = some n ↔ ∃ zeros, s = List.replicate zeros '0' ++ naturalDigits n := by
  have hw : natural? s = some n ↔ s ≠ [] ∧ digitsFrom? 0 s = some n := by
    cases s <;> simp [natural?]
  rw [hw]
  constructor
  · intro ⟨hs, h⟩
    exact eq_of_digitsFrom? hs h
  · intro ⟨zeros, he⟩
    subst he
    refine ⟨?_, digitsFrom?_of_digits zeros n⟩
    obtain ⟨c, hc⟩ := List.exists_mem_of_ne_nil _ (Nat.toDigits_ne_nil : naturalDigits n ≠ [])
    exact List.ne_nil_of_mem (List.mem_append_right _ hc)

theorem spells_iff {s : List Char} {n : Nat} :
    Spells s n ↔ natural? s = some n ∨ ∃ r, s = '+' :: r ∧ natural? r = some n := by
  simp [Spells, natural?_eq_some]

/-- What is read as a number of a setting is spelt as one that is not too large. -/
theorem unsigned?_eq_some {most n : Nat} {s : List Char} : unsigned? most s = some n ↔ Spells s n ∧ n ≤ most := by
  rw [spells_iff]
  cases s with
  | nil => simp [unsigned?, natural?]
  | cons c r =>
    by_cases hc : c = '+'
    · subst hc
      have hn : natural? ('+' :: r) = none := rfl
      simp [unsigned?, hn, Option.bind_eq_some_iff]
    · have hu : unsigned? most (c :: r) = (natural? (c :: r)).bind fun m => if m ≤ most then some m else none := by
        unfold unsigned?
        split
        · rename_i he
          exact absurd (List.cons.inj he).1 hc
        · rfl
      simp [hu, hc, Option.bind_eq_some_iff]

end Decimal

namespace Uuid

theorem hexValue?_hexDigit : ∀ n < 16, Bytes.hexValue? (Bytes.hexDigit n) = some n := by decide

theorem hexDigit_not_blank : ∀ n < 16, Text.isBlank (Bytes.hexDigit n) = false := by decide

theorem length_hexDigits (w n : Nat) : (hexDigits w n).length = w := by
  induction w generalizing n with
  | zero => rfl
  | succ w ih => simp [hexDigits, ih]

theorem mem_hexDigits {w n : Nat} {c : Char} (h : c ∈ hexDigits w n) :
    ∃ m < 16, c = Bytes.hexDigit m := by
  induction w generalizing n with
  | zero => cases h
  | succ w ih =>
    rcases List.mem_append.mp h with h | h
    · exact ih h
    · exact ⟨n % 16, by omega, List.mem_singleton.mp h⟩

theorem digitsFrom?_append (m : Nat) (s t : List Char) :
    digitsFrom? m (s ++ t) = (digitsFrom? m s).bind fun m => digitsFrom? m t := by
  induction s generalizing m with
  | nil => rfl
  | cons c s ih =>
    cases h : Bytes.hexValue? c with
    | none => simp [digitsFrom?, h]
    | some v => simp [digitsFrom?, h, ih]

theorem digitsFrom?_hexDigits (w n : Nat) : digitsFrom? 0 (hexDigits w n) = some (n % 16 ^ w) := by
  induction w generalizing n with
  | zero => simp [hexDigits, digitsFrom?, Nat.mod_one]
  | succ w ih =>
    have hv := hexValue?_hexDigit (n % 16) (by omega)
    have hn : n % 16 ^ (w + 1) = 16 * (n / 16 % 16 ^ w) + n % 16 := by
      rw [Nat.pow_succ, Nat.mul_comm, Nat.mod_mul]
      omega
    simp [hexDigits, digitsFrom?_append, ih, digitsFrom?, hv, hn]

theorem ofDigits?_hexDigits (u : Uuid) : ofDigits? (hexDigits 32 u.bits.toNat) = some u := by
  have hu : u.bits.toNat % 16 ^ 32 = u.bits.toNat := Nat.mod_eq_of_lt u.bits.isLt
  have hb : ofNat u.bits.toNat = u := by
    rw [ofNat, BitVec.ofNat_toNat, BitVec.setWidth_eq]
  rw [ofDigits?, if_pos (length_hexDigits _ _), digitsFrom?_hexDigits, hu, Option.map_some, hb]

/-- Taking the hyphens out undoes the grouping. -/
theorem ofGrouped?_grouped {d : List Char} (h : d.length = 32) :
    ofGrouped? (grouped d) = ofDigits? d := by
  obtain ⟨p, q, r, s, t, rfl, hp, hq, hr, hs⟩ : ∃ p q r s t, d = p ++ (q ++ (r ++ (s ++ t))) ∧
      p.length = 8 ∧ q.length = 4 ∧ r.length = 4 ∧ s.length = 4 := by
    refine ⟨d.take 8, (d.drop 8).take 4, (d.drop 12).take 4, (d.drop 16).take 4, d.drop 20, ?_, ?_⟩
    · have e (n : Nat) : (d.drop n).take 4 ++ d.drop (n + 4) = d.drop n := by
        rw [← List.drop_drop, List.take_append_drop]
      rw [e 16, e 12, e 8, List.take_append_drop]
    · simp [h]
  have ht : t.length = 12 := by simp at h; omega
  have hg : grouped (p ++ (q ++ (r ++ (s ++ t)))) =
      p ++ '-' :: (q ++ '-' :: (r ++ '-' :: (s ++ '-' :: t))) := by
    simp [grouped, List.drop_append, List.drop_of_length_le, hp, hq, hr, hs]
  rw [hg]
  simp [ofGrouped?, List.drop_append, List.drop_of_length_le, hp, hq, hr, hs, ht]

theorem length_grouped {d : List Char} (h : d.length = 32) : (grouped d).length = 36 := by
  simp [grouped, h]

theorem mem_grouped {d : List Char} {c : Char} (h : c ∈ grouped d) : c = '-' ∨ c ∈ d := by
  simp only [grouped, List.append_assoc, List.mem_append, List.cons_append, List.mem_cons] at h
  rcases h with h | h | h | h | h | h | h | h | h
  · exact .inr (List.mem_of_mem_take h)
  · exact .inl h
  · exact .inr (List.mem_of_mem_drop (List.mem_of_mem_take h))
  · exact .inl h
  · exact .inr (List.mem_of_mem_drop (List.mem_of_mem_take h))
  · exact .inl h
  · exact .inr (List.mem_of_mem_drop (List.mem_of_mem_take h))
  · exact .inl h
  · exact .inr (List.mem_of_mem_drop h)

theorem ofChars?_grouped {d : List Char} (h : d.length = 32) (hd : ∀ c ∈ d, Text.isBlank c = false) :
    ofChars? (Text.trim (grouped d)) = ofDigits? d := by
  have ht : Text.trim (grouped d) = grouped d := by
    apply Text.trim_of_none_blank
    intro c hc
    rcases mem_grouped hc with rfl | hc
    · decide
    · exact hd c hc
  rw [ht, ← ofGrouped?_grouped h, ofChars?, length_grouped h, if_neg (by omega), if_pos rfl]

/-- An identifier is read from its text. -/
theorem ofPadded?_text (u : Uuid) : ofPadded? u.text = some u := by
  rw [ofPadded?, text, String.toList_ofList, chars, ofChars?_grouped (length_hexDigits _ _)]
  · exact ofDigits?_hexDigits u
  · intro c hc
    obtain ⟨m, hm, rfl⟩ := mem_hexDigits hc
    exact hexDigit_not_blank m hm

end Uuid

end Storefront
