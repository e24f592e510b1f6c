import Storefront.Json.Reader
import Storefront.Json.Value
import Storefront.Proofs.Digits

namespace Storefront.Json

theorem skipBlanks_cons {b : UInt8} (h : isBlank b = false) (r : Bytes) :
    skipBlanks (b :: r) = b :: r := by
  simp [skipBlanks, h]

theorem hexValue?_hexDigit : ∀ n < 16, hexValue? (Bytes.ascii (Bytes.hexDigit n)) = some n := by
  decide

theorem utf8_control : ∀ n < 32, utf8 n = [n.toUInt8] := by decide

/-- A control that is written by its number is read from it. -/
theorem unicodeEscape_control {b : UInt8} (h : b < 0x20) (r : Bytes) :
    unicodeEscape (0x30 :: 0x30 :: Bytes.ascii (Bytes.hexDigit (b.toNat / 16)) ::
      Bytes.ascii (Bytes.hexDigit (b.toNat % 16)) :: r) = .ok ([b], r) := by
  have hb : b.toNat < 32 := h
  have hz : hexValue? 0x30 = some 0 := by decide
  have h₁ := hexValue?_hexDigit (b.toNat / 16) (by omega)
  have h₂ := hexValue?_hexDigit (b.toNat % 16) (by omega)
  have hn : ((0 * 16 + 0) * 16 + b.toNat / 16) * 16 + b.toNat % 16 = b.toNat := by omega
  have hu : utf8 b.toNat = [b] := by
    rw [utf8_control _ hb]
    simp
  have hlow : (0xdc00 ≤ b.toNat && b.toNat ≤ 0xdfff) = false := by
    simp only [Bool.and_eq_false_iff, decide_eq_false_iff_not]
    omega
  have hhigh : (0xd800 ≤ b.toNat && b.toNat ≤ 0xdbff) = false := by
    simp only [Bool.and_eq_false_iff, decide_eq_false_iff_not]
    omega
  simp only [unicodeEscape, fourDigits, hz, h₁, h₂, hn, Bind.bind, Except.bind, hlow, hhigh, hu,
    Bool.false_eq_true, if_false]

/-- A byte is written with a letter of its own, as a control by its number, or as it is. -/
theorem escapeByte_cases (b : UInt8) :
    (∃ x, shortEscape? x = some b ∧ escapeByte b = [0x5c, x]) ∨
    (b < 0x20 ∧ escapeByte b = [0x5c, 0x75, 0x30, 0x30, Bytes.ascii (Bytes.hexDigit (b.toNat / 16)),
      Bytes.ascii (Bytes.hexDigit (b.toNat % 16))]) ∨
    (b ≠ 0x22 ∧ b ≠ 0x5c ∧ ¬b < 0x20 ∧ escapeByte b = [b]) := by
  by_cases hs : b ∈ [0x22, 0x5c, 0x08, 0x0c, 0x0a, 0x0d, 0x09]
  · left
    simp only [List.mem_cons, List.not_mem_nil, or_false] at hs
    rcases hs with rfl | rfl | rfl | rfl | rfl | rfl | rfl
    all_goals exact ⟨_, by decide, rfl⟩
  · right
    simp only [List.mem_cons, List.not_mem_nil, or_false, not_or] at hs
    obtain ⟨h₁, h₂, h₃, h₄, h₅, h₆, h₇⟩ := hs
    by_cases h : b < 0x20
    · exact .inl ⟨h, by simp [escapeByte, h₁, h₂, h₃, h₄, h₅, h₆, h₇, h]⟩
    · exact .inr ⟨h₁, h₂, h, by simp [escapeByte, h₁, h₂, h₃, h₄, h₅, h₆, h₇, h]⟩

/-- One step of reading takes one written byte. -/
theorem textBytesFrom_escapeByte (fuel : Nat) (acc : Bytes) (b : UInt8) (s : Bytes) :
    textBytesFrom (fuel + 1) acc (escapeByte b ++ s) = textBytesFrom fuel (b :: acc) s := by
  rcases escapeByte_cases b with ⟨x, hx, he⟩ | ⟨hb, he⟩ | ⟨h₁, h₂, h₃, he⟩
  · rw [he, List.cons_append, List.cons_append, List.nil_append, textBytesFrom]
    simp [escape, hx]
  · have hn : shortEscape? 0x75 = none := by decide
    simp only [he, List.cons_append, List.nil_append]
    rw [textBytesFrom]
    simp [escape, hn, unicodeEscape_control hb]
  · rw [he, List.cons_append, List.nil_append, textBytesFrom]
    simp [h₁, h₂, h₃]

theorem textBytesFrom_written (bs acc r : Bytes) (fuel : Nat) (h : bs.length < fuel) :
    textBytesFrom fuel acc (bs.flatMap escapeByte ++ 0x22 :: r) = .ok (acc.reverse ++ bs, r) := by
  induction bs generalizing acc fuel with
  | nil =>
    obtain ⟨fuel, rfl⟩ : ∃ n, fuel = n + 1 := ⟨fuel - 1, by simp at h; omega⟩
    simp [textBytesFrom]
  | cons b bs ih =>
    obtain ⟨fuel, rfl⟩ : ∃ n, fuel = n + 1 := ⟨fuel - 1, by simp at h; omega⟩
    rw [List.flatMap_cons, List.append_assoc, textBytesFrom_escapeByte, ih _ _ (by simpa using h)]
    simp

theorem length_le_flatMap (bs : Bytes) : bs.length ≤ (bs.flatMap escapeByte).length := by
  induction bs with
  | nil => simp
  | cons b bs ih =>
    have hb : 1 ≤ (escapeByte b).length := by
      rcases escapeByte_cases b with ⟨x, _, he⟩ | ⟨_, he⟩ | ⟨_, _, _, he⟩
      all_goals simp [he]
    simp only [List.flatMap_cons, List.length_append, List.length_cons]
    omega

theorem text_written (s : String) (r : Bytes) :
    text ((Bytes.ofText s).flatMap escapeByte ++ 0x22 :: r) = .ok (s, r) := by
  have hl := length_le_flatMap (Bytes.ofText s)
  rw [text, textBytesFrom_written _ _ _ _ (by rw [List.length_append]; omega)]
  simp [Bind.bind, Except.bind, Bytes.toText?_ofText]

theorem textBytes_append (s : String) (r : Bytes) :
    textBytes s ++ r = 0x22 :: ((Bytes.ofText s).flatMap escapeByte ++ 0x22 :: r) := by
  simp [textBytes]

theorem readText_textBytes (s : String) (r : Bytes) : readText (textBytes s ++ r) = .ok (s, r) := by
  rw [textBytes_append, readText, skipBlanks_cons (by decide)]
  exact text_written s r

theorem readWord_textBytes (nothing : Reader Unit) (s : String) (r : Bytes) :
    readWord nothing (textBytes s ++ r) = .ok (s, r) := by
  rw [textBytes_append, readWord, skipBlanks_cons (by decide)]
  exact text_written s r

/-- Behind a number stands something that could not go on with it. -/
def EndsNumber (r : Bytes) : Prop :=
  ∀ b ∈ r.head?, isDigit b = false ∧ b ≠ 0x2e ∧ isExponentLetter b = false

theorem digit_bounds {c : Char} (h : c.isDigit = true) : 48 ≤ c.toNat ∧ c.toNat ≤ 57 := by
  simp only [Char.isDigit, Bool.and_eq_true, decide_eq_true_eq, ge_iff_le, UInt32.le_iff_toNat_le] at h
  exact h

theorem ascii_toNat {c : Char} (h : c.isDigit = true) : (Bytes.ascii c).toNat = c.toNat := by
  obtain ⟨_, hc⟩ := digit_bounds h
  exact Bytes.toNat_ascii (by omega)

theorem isDigit_ascii {c : Char} (h : c.isDigit = true) : isDigit (Bytes.ascii c) = true := by
  obtain ⟨hl, hh⟩ := digit_bounds h
  simp only [isDigit, Bool.and_eq_true, decide_eq_true_eq, UInt8.le_iff_toNat_le, ascii_toNat h]
  exact ⟨hl, hh⟩

theorem le_ofDigitChars (ds : List Char) (m : Nat) : m ≤ Nat.ofDigitChars 10 ds m := by
  induction ds generalizing m with
  | nil => simp
  | cons d ds ih =>
    rw [Nat.ofDigitChars_cons]
    exact Nat.le_trans (by omega) (ih _)

theorem startsWithDigit_of_ends {r : Bytes} (h : EndsNumber r) : startsWithDigit r = false := by
  cases r with
  | nil => rfl
  | cons b r => exact (h b rfl).1

/-- Digits are taken to the last one if the number has 64 bits. -/
theorem significandFrom_digits {ds : List Char} {m k : Nat} {r : Bytes}
    (hd : ∀ c ∈ ds, c.isDigit = true) (hm : Nat.ofDigitChars 10 ds m ≤ Decimal.most64)
    (hr : EndsNumber r) :
    significandFrom m k (asciiBytes ds ++ r) = (Nat.ofDigitChars 10 ds m, k + ds.length, r) := by
  induction ds generalizing m k with
  | nil =>
    cases r with
    | nil => rfl
    | cons b r => simp [asciiBytes, significandFrom, (hr b rfl).1]
  | cons d ds ih =>
    have hc := hd d (by simp)
    have hz : '0'.toNat = 48 := rfl
    rw [Nat.ofDigitChars_cons, hz] at hm ⊢
    have hn : ¬Decimal.most64 < 10 * m + (d.toNat - 48) :=
      Nat.not_lt.mpr (Nat.le_trans (le_ofDigitChars ds _) hm)
    have he : significandFrom m k (asciiBytes (d :: ds) ++ r) =
        significandFrom (10 * m + (d.toNat - 48)) (k + 1) (asciiBytes ds ++ r) := by
      simp [asciiBytes, significandFrom, isDigit_ascii hc, ascii_toNat hc, hn]
    rw [he, ih (fun c h => hd c (by simp [h])) hm, List.length_cons, Nat.add_right_comm, Nat.add_assoc]

theorem number_digits {n : Nat} {r : Bytes} (positive : Bool) (hn : n ≤ Decimal.most64)
    (hr : EndsNumber r) :
    number positive (asciiBytes (Decimal.naturalDigits n) ++ r) = afterWhole positive n 0 r := by
  have hs := startsWithDigit_of_ends hr
  by_cases hz : n = 0
  · subst hz
    change number positive (0x30 :: r) = _
    rw [number, if_pos rfl, hs]
    simp
  · obtain ⟨c, ds, he, hc⟩ := Decimal.naturalDigits_cons (Nat.pos_of_ne_zero hz)
    have hd (x : Char) (h : x ∈ c :: ds) : x.isDigit = true := Decimal.mem_naturalDigits (he ▸ h)
    have hcd := hd c (by simp)
    have hv : Nat.ofDigitChars 10 ds (c.toNat - 48) = n := by
      have h : Nat.ofDigitChars 10 (Decimal.naturalDigits n) 0 = n := Nat.ofDigitChars_ten_toDigits
      rw [he, Nat.ofDigitChars_cons] at h
      simpa using h
    have hne : Bytes.ascii c ≠ 0x30 := by
      intro h
      apply hc
      have ht := ascii_toNat hcd
      rw [h] at ht
      exact Char.toNat_inj.mp (show c.toNat = '0'.toNat from ht.symm)
    have ht : r.takeWhile isDigit = [] ∧ skipDigits r = r := by
      cases r with
      | nil => exact ⟨rfl, rfl⟩
      | cons b r => simp [skipDigits, (hr b rfl).1]
    rw [he, asciiBytes, List.map_cons, List.cons_append, number, if_neg hne, if_pos (isDigit_ascii hcd),
      ascii_toNat hcd, ← asciiBytes,
      significandFrom_digits (fun x h => hd x (by simp [h])) (by omega) hr, hv]
    simp [ht]

theorem afterWhole_ends {positive : Bool} {n : Nat} {r : Bytes} (hr : EndsNumber r) :
    afterWhole positive n 0 r =
      if positive then .ok (.natural n, r)
      else if n = 0 || 0x8000000000000000 < n then .ok (.float (-n.toUInt64.toFloat), r)
      else .ok (.negative n, r) := by
  cases r with
  | nil => simp [afterWhole]
  | cons b r =>
    obtain ⟨_, h₁, h₂⟩ := hr b rfl
    rw [afterWhole]
    · simp [h₂]
    · intro r' h
      exact h₁ (List.cons.inj h).1

theorem digit_not_blank {b : UInt8} (h : isDigit b = true) : isBlank b = false := by
  cases hb : isBlank b with
  | false => rfl
  | true =>
    simp only [isBlank, Bool.or_eq_true, beq_iff_eq] at hb
    rcases hb with ((rfl | rfl) | rfl) | rfl
    all_goals exact absurd h (by decide)

theorem readNumber_digit (name : String) {b : UInt8} (h : isDigit b = true) (r : Bytes) :
    readNumber name (b :: r) = number true (b :: r) := by
  have hn : b ≠ 0x2d := by
    rintro rfl
    exact absurd h (by decide)
  rw [readNumber, skipBlanks_cons (digit_not_blank h)]
  split
  · cases ‹_ = []›
  · rename_i he
    exact absurd (List.cons.inj he).1 hn
  · rename_i he
    obtain ⟨rfl, rfl⟩ := List.cons.inj he
    rw [if_pos h]

theorem readNumber_digits (name : String) (n : Nat) (r : Bytes) :
    readNumber name (asciiBytes (Decimal.naturalDigits n) ++ r) =
      number true (asciiBytes (Decimal.naturalDigits n) ++ r) := by
  cases he : Decimal.naturalDigits n with
  | nil => exact absurd he Nat.toDigits_ne_nil
  | cons c ds =>
    apply readNumber_digit
    exact isDigit_ascii (Decimal.mem_naturalDigits (n := n) (he ▸ List.mem_cons_self))

/-- A whole number of 64 bits is read from its digits. -/
theorem readInt_written {name : String} {least most n : Int} {r : Bytes} (hl : least ≤ n)
    (hm : n ≤ most) (hl' : Decimal.leastSigned64 ≤ n) (hm' : n ≤ Decimal.mostSigned64)
    (hr : EndsNumber r) : readInt name least most ((Value.int n).bytes ++ r) = .ok (n, r) := by
  simp only [Decimal.leastSigned64, Decimal.mostSigned64] at hl' hm'
  rw [Value.bytes, Decimal.integerDigits]
  split
  · rename_i hs
    have hn : readNumber name (asciiBytes ('-' :: Decimal.naturalDigits n.natAbs) ++ r) =
        .ok (.negative n.natAbs, r) := by
      have hz : ¬(n.natAbs = 0 || 0x8000000000000000 < n.natAbs) = true := by
        simp only [Bool.or_eq_true, decide_eq_true_eq]
        omega
      change number false (asciiBytes (Decimal.naturalDigits n.natAbs) ++ r) = _
      rw [number_digits _ (by simp only [Decimal.most64]; omega) hr, afterWhole_ends hr, if_neg hz]
      rfl
    have ha : -(n.natAbs : Int) = n := by omega
    simp only [readInt, hn, Bind.bind, Except.bind, ha, hl, hm, and_self, if_true]
  · rename_i hs
    have hn : readNumber name (asciiBytes (Decimal.naturalDigits n.natAbs) ++ r) =
        .ok (.natural n.natAbs, r) := by
      rw [readNumber_digits, number_digits _ (by simp only [Decimal.most64]; omega) hr,
        afterWhole_ends hr, if_pos rfl]
    have ha : (n.natAbs : Int) = n := by omega
    simp only [readInt, hn, Bind.bind, Except.bind, ha, hl, hm, and_self, if_true]

theorem colon_cons (r : Bytes) : colon (0x3a :: r) = .ok r := by
  rw [colon, skipBlanks_cons (by decide)]
  rfl

/-- What stands in front of a member. -/
def separator (first : Bool) : Bytes := if first then [] else [0x2c]

/-- The members of an object from one of them on, with the brace that closes it. -/
def written (first : Bool) : List (String × Value) → Bytes
  | [] => [0x7d]
  | (k, v) :: r => separator first ++ (textBytes k ++ 0x3a :: (v.bytes ++ written false r))

theorem commaSeparated_written (p : String × Value) (ms : List (String × Value)) :
    commaSeparated (memberBytes (p :: ms)) ++ [0x7d] = written true (p :: ms) := by
  induction ms generalizing p with
  | nil => simp [memberBytes, commaSeparated, written, separator]
  | cons q ms ih =>
    have hi := ih q
    simp only [memberBytes, written, separator, if_true, List.nil_append] at hi ⊢
    simp [commaSeparated, ← hi]

theorem object_bytes (ms : List (String × Value)) :
    (Value.object ms).bytes = 0x7b :: written true ms := by
  cases ms with
  | nil => rfl
  | cons p ms => rw [Value.bytes, ← commaSeparated_written, List.cons_append]

theorem length_written (first : Bool) (ms : List (String × Value)) :
    ms.length < (written first ms).length := by
  induction ms generalizing first with
  | nil => simp [written]
  | cons p ms ih =>
    have hi := ih false
    simp only [written, List.length_append, List.length_cons]
    omega

theorem nextKey_separator (first : Bool) (s : String) (r : Bytes) :
    nextKey first (separator first ++ (textBytes s ++ r)) =
      .ok (some ((Bytes.ofText s).flatMap escapeByte ++ 0x22 :: r),
        (Bytes.ofText s).flatMap escapeByte ++ 0x22 :: r) := by
  rw [textBytes_append]
  cases first with
  | true =>
    rw [separator, if_pos rfl, List.nil_append, nextKey, skipBlanks_cons (by decide)]
    rfl
  | false =>
    rw [separator, if_neg (by decide), List.cons_append, List.nil_append, nextKey,
      skipBlanks_cons (by decide)]
    simp only [skipBlanks_cons (show isBlank 0x22 = false by decide), Bool.false_eq_true, if_false]

/-- A member that is taken brings the reader to what follows it. -/
theorem members_cons {σ : Type} {member : String → σ → Reader σ} {state state' : σ} {key : String}
    {value : Value} {ms : List (String × Value)} {first : Bool} {fuel : Nat}
    (h : member key state (0x3a :: (value.bytes ++ written false ms)) =
      .ok (state', written false ms)) :
    members member (fuel + 1) first state (written first ((key, value) :: ms)) =
      members member fuel false state' (written false ms) := by
  rw [members, written, nextKey_separator]
  simp only [Bind.bind, Except.bind, text_written, h]

theorem members_nil {σ : Type} {member : String → σ → Reader σ} {state : σ} {first : Bool}
    {fuel : Nat} : members member (fuel + 1) first state (written first []) = .ok (state, []) := by
  rw [members, written, nextKey, skipBlanks_cons (by decide)]
  rfl

theorem endsNumber_written (ms : List (String × Value)) : EndsNumber (written false ms) := by
  cases ms with
  | nil =>
    intro b hb
    cases hb
    decide
  | cons p ms =>
    intro b hb
    cases hb
    decide

end Storefront.Json
