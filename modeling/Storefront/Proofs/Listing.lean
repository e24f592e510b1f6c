import Mathlib.Data.List.Sort
import Mathlib.Data.Prod.Lex
import Storefront.Time
import Storefront.Uuid

namespace Storefront

variable {α γ : Type} [LinearOrder γ] {key : α → γ} {there : α → Prop} {l l' : List α}

/-- A listing of what is there: everything once, by increasing keys. -/
structure Listing (key : α → γ) (there : α → Prop) (l : List α) : Prop where
  mem : ∀ x, x ∈ l ↔ there x
  once : l.Nodup
  increasing : l.Pairwise fun x y => key x < key y

namespace Listing

/-- A list that is in order is a listing if its keys are different. -/
theorem of_sorted (hs : l'.Pairwise fun x y => key x ≤ key y) (hp : l'.Perm l) (hn : l.Nodup)
    (hk : ∀ x ∈ l, ∀ y ∈ l, key x = key y → x = y) : Listing key (· ∈ l) l' := by
  have hn' : l'.Nodup := hp.nodup_iff.mpr hn
  refine ⟨fun x => hp.mem_iff, hn', (hs.and hn').imp_of_mem ?_⟩
  intro x y hx hy hxy
  exact lt_of_le_of_ne hxy.1 fun he => hxy.2 (hk x (hp.mem_iff.mp hx) y (hp.mem_iff.mp hy) he)

theorem mergeSort {le : α → α → Bool} (hle : ∀ x y, le x y = true ↔ key x ≤ key y) (hp : l'.Perm l) (hn : l.Nodup)
    (hk : ∀ x ∈ l, ∀ y ∈ l, key x = key y → x = y) : Listing key (· ∈ l) (l'.mergeSort le) := by
  have htrans : ∀ x y z, le x y = true → le y z = true → le x z = true := by
    intro x y z
    simpa only [hle] using le_trans
  have htotal : ∀ x y, (le x y || le y x) = true := by
    intro x y
    simpa only [Bool.or_eq_true, hle] using le_total _ _
  have hs : (l'.mergeSort le).Pairwise fun x y => key x ≤ key y :=
    (List.pairwise_mergeSort htrans htotal l').imp fun h => (hle _ _).mp h
  exact of_sorted hs ((List.mergeSort_perm l' le).trans hp) hn hk

/-- There is one listing only. -/
theorem unique (h : Listing key there l) (h' : Listing key there l') : l = l' := by
  have : Std.Irrefl fun x y : α => key x < key y := ⟨fun x => lt_irrefl (key x)⟩
  have : Std.Antisymm fun x y : α => key x < key y := ⟨fun _ _ hxy hyx => absurd hyx hxy.asymm⟩
  exact h.increasing.eq_of_mem_iff h'.increasing fun x => (h.mem x).trans (h'.mem x).symm

end Listing

/-- Whoever was created at the same time as somebody and has as high an identifier is the same. -/
theorem Uuid.eq_of_age {t t' : Instant} {a b : Uuid}
    (h : (toLex (t, a.bits.toNat) : Int ×ₗ Nat) = toLex (t', b.bits.toNat)) : a = b :=
  congrArg Uuid.mk (BitVec.eq_of_toNat_eq (congrArg Prod.snd (toLex_inj.mp h)))

end Storefront
