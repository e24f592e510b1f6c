import Storefront.Account.Store

namespace Storefront

namespace Bytes

/-- What has been collected stays clear if and only if there is nothing to collect. -/
theorem differences_eq_zero {a b : Bytes} (h : a.length = b.length) (acc : UInt8) :
    (a.zip b).foldl (fun acc p => acc ||| (p.1 ^^^ p.2)) acc = 0 ↔ acc = 0 ∧ a = b := by
  induction a generalizing b acc with
  | nil =>
    obtain rfl := List.eq_nil_of_length_eq_zero h.symm
    simp
  | cons x a ih =>
    cases b with
    | nil => cases h
    | cons y b =>
      rw [List.zip_cons_cons, List.foldl_cons, ih (Nat.succ.inj h), UInt8.or_eq_zero_iff, UInt8.xor_eq_zero_iff,
        List.cons.injEq, and_assoc]

theorem constantTimeEq_iff {a b : Bytes} : constantTimeEq a b = true ↔ a = b := by
  unfold constantTimeEq
  split
  · rename_i h
    rw [beq_iff_eq, differences_eq_zero h]
    exact and_iff_right rfl
  · rename_i h
    refine ⟨nofun, ?_⟩
    rintro rfl
    exact absurd rfl h

end Bytes

namespace Account

variable {P : Primitives} {u : User} {t : ResetToken} {s : Store} {id : UserId} {hash : String}

theorem ResetToken.matchesHash_iff : t.matchesHash P hash = true ↔ hash = t.hash P := by
  rw [matchesHash, Bytes.constantTimeEq_iff, Bytes.ofText_inj, eq_comm]

/-- A record finds a token good when a call with its digest would find the record so. -/
theorem User.resetMatches_eq (P : Primitives) (u : User) (t : ResetToken) (now : Instant) :
    u.resetMatches P t now = Store.resetLive u (t.hash P) now := by
  rw [Bool.eq_iff_iff, resetMatches, Store.resetLive]
  cases u.resetHash with
  | none => simp
  | some h =>
    cases u.resetExpires with
    | none => simp
    | some e => simp [ResetToken.matchesHash_iff, and_comm]

namespace Store

theorem consumeReset_fst (hg : s.get? id = some u) (hash : String) (p : Password.Hashed) (asOf now : Instant) :
    (s.consumeReset id hash p asOf now).1 = resetLive u hash asOf := by
  rw [consumeReset, hg]
  cases hl : resetLive u hash asOf with
  | false => simp [hl]
  | true => simp [hl]

theorem resetHash_of_live {now : Instant} (h : resetLive u hash now = true) : u.resetHash = some hash := by
  rw [resetLive, Bool.and_eq_true] at h
  exact of_decide_eq_true h.1

/-- The search for a digest does not pass over a record that has it. -/
theorem findByResetHash_append {before after : Store} (hu : u.resetHash = some hash)
    (hb : ∀ p ∈ before, p.2.resetHash ≠ some hash) :
    findByResetHash (before ++ (id, u) :: after) hash = some u := by
  have hn : before.values.find? (fun v => v.resetHash = some hash) = none := by
    simpa [Keyed.values] using fun id v hp => hb (id, v) hp
  have hv : Keyed.values (before ++ (id, u) :: after) = before.values ++ u :: Keyed.values after :=
    List.map_append
  rw [findByResetHash, hv, List.find?_append, hn, Option.none_or]
  exact List.find?_cons_of_pos (decide_eq_true hu)

end Store

/-- Byte strings compare as equal if and only if they are the same; a record finds a token good if and only if the
call that changes the password does; and then the search for the digest finds this record, wherever it stands
behind records with other digests. -/
theorem reset_checks_agree (P : Primitives) :
    (∀ a b : Bytes, Bytes.constantTimeEq a b = true ↔ a = b) ∧
    ∀ (u : User) (t : ResetToken) (now : Instant),
      (∀ (s : Store) (id : UserId) (p : Password.Hashed) (written : Instant), s.get? id = some u →
        (u.resetMatches P t now = true ↔ (s.consumeReset id (t.hash P) p now written).1 = true)) ∧
      (u.resetMatches P t now = true → ∀ (before after : Store) (id : UserId),
        (∀ q ∈ before, q.2.resetHash ≠ some (t.hash P)) →
          Store.findByResetHash (before ++ (id, u) :: after) (t.hash P) = some u) := by
  refine ⟨fun a b => Bytes.constantTimeEq_iff, fun u t now => ⟨?_, ?_⟩⟩
  · intro s id p written hg
    rw [Store.consumeReset_fst hg, User.resetMatches_eq]
  · intro hm before after id hb
    rw [User.resetMatches_eq] at hm
    exact Store.findByResetHash_append (Store.resetHash_of_live hm) hb

section Lea

def leaToken : ResetToken := ⟨"0f1e2d3c"⟩

/-- A user who may choose a new password until 1000. -/
def lea : User :=
  { User.new (.ofNat 1) ⟨"Lea"⟩ ⟨"lea@b.co"⟩ ⟨"Violet-77"⟩ .user 0 with
    resetHash := some (leaToken.hash .standard)
    resetExpires := some 1000 }

/-- A user who waits for nothing. -/
def bystander : User := .new (.ofNat 2) ⟨"Ann"⟩ ⟨"ann@b.co"⟩ ⟨"Indigo-88"⟩ .user 0

def withBystander : Store := [(bystander.id, bystander), (lea.id, lea)]

theorem lea_checks_agree :
    withBystander.get? lea.id = some lea ∧
      (lea.resetMatches .standard leaToken 999 = true ∧
        (withBystander.consumeReset lea.id (leaToken.hash .standard) ⟨"Indigo-88"⟩ 999 1001).1 = true) ∧
      (¬lea.resetMatches .standard leaToken 1000 = true ∧
        ¬(withBystander.consumeReset lea.id (leaToken.hash .standard) ⟨"Indigo-88"⟩ 1000 1001).1 = true) ∧
      withBystander.findByResetHash (leaToken.hash .standard) = some lea := by
  have hg : withBystander.get? lea.id = some lea := rfl
  have hgood : lea.resetMatches .standard leaToken 999 = true := by decide +kernel
  have hlate : ¬lea.resetMatches .standard leaToken 1000 = true := by decide +kernel
  obtain ⟨hcall, hfind⟩ := (reset_checks_agree .standard).2 lea leaToken 999
  obtain ⟨hcall', _⟩ := (reset_checks_agree .standard).2 lea leaToken 1000
  refine ⟨hg, ⟨hgood, (hcall _ _ _ 1001 hg).mp hgood⟩, ⟨hlate, ?_⟩, ?_⟩
  · exact mt (hcall' _ _ _ 1001 hg).mpr hlate
  · exact hfind hgood [(bystander.id, bystander)] [] lea.id (by simp [bystander, User.new])

end Lea

end Account
end Storefront
