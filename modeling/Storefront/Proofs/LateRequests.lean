import Storefront.Proofs.RequestLog

namespace Storefront.RateLimit

/-- How far a request has come. -/
inductive Stage where
  | entered
  /-- The clock was read. -/
  | timed (t : Instant)
  /-- The request was counted at the instant that was read. -/
  | judged (t : Instant) (v : Verdict)

structure Request where
  key : String
  stage : Stage

/-- Requests that overlap, all under one limit.  A request reads the clock first and is counted afterwards, so that
one that is late is counted at an instant of a window that others have left already, and its counter starts anew. -/
structure Contest where
  clock : Instant
  /-- In the order in which they came in. -/
  requests : List Request
  store : Store
  /-- The requests that were counted, with the instants at which they were; the latest comes first. -/
  checks : List (String × Instant)

inductive Event where
  /-- Time goes on. -/
  | pass (ms : Nat)
  | enter (key : String)
  /-- A request takes its next step. -/
  | turn (who : Nat)

namespace Contest

def start (clock : Instant) : Contest := ⟨clock, [], [], []⟩

/-- A turn of a request that has its verdict, or of none, changes nothing. -/
def apply (l : Limit) (w : Contest) : Event → Contest
  | .pass ms => { w with clock := w.clock + ms }
  | .enter key => { w with requests := w.requests ++ [⟨key, .entered⟩] }
  | .turn who =>
    match w.requests[who]? with
    | some ⟨key, .entered⟩ => { w with requests := w.requests.set who ⟨key, .timed w.clock⟩ }
    | some ⟨key, .timed t⟩ =>
      let (v, store) := w.store.check key l t
      ⟨w.clock, w.requests.set who ⟨key, .judged t v⟩, store, (key, t) :: w.checks⟩
    | _ => w

def run (l : Limit) (w : Contest) (es : List Event) : Contest := es.foldl (apply l) w

/-- The windows in which the requests of a key were counted; the latest comes first. -/
def windows (l : Limit) (key : String) : List (String × Instant) → List Int
  | [] => []
  | (k, t) :: cs => if k = key then l.windowIndex t :: windows l key cs else windows l key cs

end Contest

/-- Whether a request of a key was let through that has read the clock in a window. -/
def Request.passed (l : Limit) (key : String) (window : Int) (r : Request) : Bool :=
  match r.stage with
  | .judged t v => r.key = key ∧ l.windowIndex t = window ∧ v.allowed
  | _ => false

section Windows

variable (m : Nat) (k : Int) {ws : List Int}

/-- How many of the latest requests in a row were counted in the window `k`. -/
def lead : List Int → Nat
  | [] => 0
  | j :: ws => if j = k then lead ws + 1 else 0

/-- How many requests were let through in the window `k`: a request is, if those in a row with it are within
the limit `m`. -/
def granted : List Int → Nat
  | [] => 0
  | j :: ws => granted ws + if j = k ∧ min (lead k ws + 1) Store.maxCount ≤ m then 1 else 0

variable {m k}

theorem granted_other {j : Int} (h : j ≠ k) : granted m k (j :: ws) = granted m k ws := by
  simp [granted, h]

theorem granted_same (hm : m < Store.maxCount) :
    granted m k (k :: ws) = granted m k ws + if lead k ws < m then 1 else 0 := by
  have h : min (lead k ws + 1) Store.maxCount ≤ m ↔ lead k ws < m := by omega
  simp only [granted, true_and, h]

theorem lead_le_count : lead k ws ≤ ws.count k := by
  induction ws with
  | nil => exact Nat.zero_le _
  | cons j ws ih =>
    rw [lead, List.count_cons]
    by_cases h : j = k
    · simpa [h] using ih
    · simp [h]

/-- Not all requests in a window came in a row if one in another window came later. -/
theorem lead_lt_count {j : Int} (hj : j ≠ k) (h : [j, k].Sublist ws) : lead k ws < ws.count k := by
  induction ws with
  | nil => cases h
  | cons i ws ih =>
    rw [lead, List.count_cons]
    rcases List.sublist_cons_iff.mp h with h | ⟨r, hr, hk⟩
    · have := ih h
      by_cases hi : i = k
      · simpa [hi] using this
      · simp only [hi, if_false]
        omega
    · obtain ⟨rfl, rfl⟩ := List.cons.inj hr
      have := List.count_pos_iff.mpr (List.singleton_sublist.mp hk)
      simpa [hj] using this

theorem pair_of_lead_lt_count (h : lead k ws < ws.count k) : ∃ j ≠ k, [j, k].Sublist ws := by
  induction ws with
  | nil => simp at h
  | cons i ws ih =>
    rw [lead, List.count_cons] at h
    by_cases hi : i = k
    · simp only [hi, if_true, beq_self_eq_true] at h
      obtain ⟨j, hj, hs⟩ := ih (by omega)
      exact ⟨j, hj, hs.cons _⟩
    · have hk : k ∈ ws := List.count_pos_iff.mp (by simpa [hi] using h)
      exact ⟨i, hi, (List.singleton_sublist.mpr hk).cons_cons _⟩

theorem granted_le_count : granted m k ws ≤ ws.count k := by
  induction ws with
  | nil => exact Nat.zero_le _
  | cons j ws ih =>
    rw [granted, List.count_cons]
    by_cases h : j = k
    · simp only [h, beq_self_eq_true, if_true]
      split <;> omega
    · simpa [h] using ih

/-- Nobody is turned away under a limit that the counter cannot exceed. -/
theorem granted_saturated (hm : Store.maxCount ≤ m) : granted m k ws = ws.count k := by
  induction ws with
  | nil => rfl
  | cons j ws ih =>
    have hl : min (lead k ws + 1) Store.maxCount ≤ m := by omega
    rw [granted, List.count_cons, ih]
    simp [hl]

/-- The latest requests in a row and those before them are counted apart. -/
theorem le_granted (hm : m < Store.maxCount) :
    min (lead k ws) m + min (ws.count k - lead k ws) m ≤ granted m k ws := by
  induction ws with
  | nil => simp [lead]
  | cons j ws ih =>
    have hl : lead k ws ≤ ws.count k := lead_le_count
    by_cases h : j = k
    · subst h
      rw [granted_same hm, lead, if_pos rfl, List.count_cons_self]
      split <;> omega
    · rw [granted_other h, lead, if_neg h, List.count_cons_of_ne h]
      omega

/-- Requests that are all counted in a row are let through up to the limit. -/
theorem granted_row (hm : m < Store.maxCount) (h : lead k ws = ws.count k) :
    granted m k ws ≤ min (lead k ws) m := by
  induction ws with
  | nil => exact Nat.zero_le _
  | cons j ws ih =>
    by_cases hj : j = k
    · subst hj
      rw [lead, if_pos rfl, List.count_cons_self] at h
      have := ih (by omega)
      rw [granted_same hm, lead, if_pos rfl]
      split <;> omega
    · have hle : granted m k (j :: ws) ≤ (j :: ws).count k := granted_le_count
      rw [← h, lead, if_neg hj] at hle
      omega

/-- The limit is kept where no request in another window comes between two in this one. -/
theorem granted_le (hm : m < Store.maxCount) (h : ¬∃ j ≠ k, [k, j, k].Sublist ws) :
    granted m k ws ≤ m := by
  induction ws with
  | nil => exact Nat.zero_le _
  | cons i ws ih =>
    by_cases hi : i = k
    · subst hi
      have hle : lead i ws ≤ ws.count i := lead_le_count
      rcases Nat.lt_or_eq_of_le hle with hlt | hl
      · obtain ⟨j, hj, hs⟩ := pair_of_lead_lt_count hlt
        exact absurd ⟨j, hj, hs.cons_cons _⟩ h
      · have := granted_row hm hl
        rw [granted_same hm]
        split <;> omega
    · rw [granted_other hi]
      exact ih fun ⟨j, hj, hs⟩ => h ⟨j, hj, hs.cons _⟩

/-- The limit is exceeded where a request in another window comes between two in this one and there are too
many of these. -/
theorem lt_granted (h0 : 0 < m) (hm : m < Store.maxCount) (hc : m < ws.count k) {j : Int} (hj : j ≠ k)
    (h : [k, j, k].Sublist ws) : m < granted m k ws := by
  induction ws with
  | nil => cases h
  | cons i ws ih =>
    by_cases hi : i = k
    · subst hi
      have hs : [j, i].Sublist ws := by
        rcases List.sublist_cons_iff.mp h with h | ⟨r, hr, hs⟩
        · exact (List.sublist_cons_self _ _).trans h
        · obtain ⟨_, rfl⟩ := List.cons.inj hr
          exact hs
      have hlt := lead_lt_count hj hs
      have hle : min (lead i (i :: ws)) m + min ((i :: ws).count i - lead i (i :: ws)) m ≤
          granted m i (i :: ws) := le_granted hm
      rw [lead, if_pos rfl, List.count_cons_self] at hle
      rw [List.count_cons_self] at hc
      omega
    · rw [granted_other hi]
      rw [List.count_cons_of_ne hi] at hc
      rcases List.sublist_cons_iff.mp h with h | ⟨r, hr, _⟩
      · exact ih hc h
      · exact absurd (List.cons.inj hr).1.symm hi

theorem granted_zero : granted 0 k ws = 0 := by
  induction ws with
  | nil => rfl
  | cons j ws ih => simp [granted, ih, Store.maxCount, Decimal.most32]

theorem granted_le_iff : granted m k ws ≤ m ↔ m = 0 ∨ ws.count k ≤ m ∨
    (m < Store.maxCount ∧ ¬∃ j ≠ k, [k, j, k].Sublist ws) := by
  rcases Nat.eq_zero_or_pos m with rfl | h0
  · simp [granted_zero]
  rcases Nat.lt_or_ge m Store.maxCount with hm | hm
  · by_cases hc : ws.count k ≤ m
    · simp [hc, Nat.le_trans granted_le_count hc]
    · by_cases hs : ∃ j ≠ k, [k, j, k].Sublist ws
      · have ⟨j, hj, hl⟩ := hs
        have hlt := lt_granted h0 hm (Nat.not_le.mp hc) hj hl
        simp only [hc, hs, not_true_eq_false, and_false, or_false]
        omega
      · simp [hs, hm, granted_le hm hs]
  · rw [granted_saturated hm]
    omega

end Windows

namespace Contest

/-- The counter of a key has counted the latest requests in a row, and those requests were let through that
were then within the limit. -/
structure Counted (l : Limit) (w : Contest) : Prop where
  held : ∀ key t, held (w.store.get? key) l t =
    min (lead (l.windowIndex t) (windows l key w.checks)) Store.maxCount
  passed : ∀ key k, w.requests.countP (Request.passed l key k) =
    granted l.maxRequests k (windows l key w.checks)

variable {l : Limit} {w : Contest}

theorem Counted.start (clock : Instant) : (start clock).Counted l :=
  ⟨fun _ _ => rfl, fun _ _ => rfl⟩

/-- A request with a new stage that was not let through before. -/
theorem countP_set {rs : List Request} {p : Request → Bool} {i : Nat} {r r' : Request}
    (h : rs[i]? = some r) (hr : p r = false) :
    (rs.set i r').countP p = rs.countP p + if p r' then 1 else 0 := by
  obtain ⟨hi, rfl⟩ := List.getElem?_eq_some_iff.mp h
  simp [List.countP_set hi, hr]

/-- The verdict on a request that is counted. -/
theorem Counted.allowed (h : w.Counted l) (key : String) (t : Instant) :
    (w.store.check key l t).1.allowed =
      decide (min (lead (l.windowIndex t) (windows l key w.checks) + 1) Store.maxCount ≤ l.maxRequests) := by
  simp only [Store.check, Store.verdict, advance_eq, h.held, decide_eq_decide]
  omega

/-- A request that has read the clock is counted. -/
theorem Counted.judge (h : w.Counted l) {who : Nat} {key : String} {t : Instant}
    (hr : w.requests[who]? = some ⟨key, .timed t⟩) :
    Counted l ⟨w.clock, w.requests.set who ⟨key, .judged t (w.store.check key l t).1⟩,
      (w.store.check key l t).2, (key, t) :: w.checks⟩ := by
  refine ⟨?_, ?_⟩
  · intro key' t'
    rw [windows, Store.check, Keyed.get?_put]
    by_cases hk : key' = key
    · subst hk
      rw [if_pos rfl, if_pos rfl, held_advance, h.held, lead]
      by_cases ht : l.windowIndex t = l.windowIndex t'
      · rw [if_pos ht.symm, if_pos ht, ht]
        omega
      · rw [if_neg (Ne.symm ht), if_neg ht, Nat.zero_min]
    · rw [if_neg hk, if_neg (Ne.symm hk), h.held]
  · intro key' k
    rw [countP_set hr rfl, h.passed, windows]
    by_cases hk : key = key'
    · subst hk
      rw [if_pos rfl, granted]
      simp only [Request.passed, h.allowed, true_and, decide_eq_true_eq]
      by_cases ht : l.windowIndex t = k
      · rw [ht]
      · simp only [ht, false_and]
    · simp [hk, Request.passed]

theorem Counted.apply (h : w.Counted l) (e : Event) : (w.apply l e).Counted l := by
  cases e with
  | pass ms => exact ⟨h.held, h.passed⟩
  | enter key =>
    refine ⟨h.held, ?_⟩
    intro key' k
    rw [Contest.apply, List.countP_append, h.passed]
    rfl
  | turn who =>
    simp only [Contest.apply]
    split
    · rename_i hr
      refine ⟨h.held, ?_⟩
      intro key' k
      rw [countP_set hr rfl, h.passed]
      rfl
    · rename_i hr
      exact h.judge hr
    · exact h

theorem Counted.run (h : w.Counted l) (es : List Event) : (w.run l es).Counted l := by
  induction es generalizing w with
  | nil => exact h
  | cons e es ih => exact ih (h.apply e)

/-- A window lets through no more requests of a key than the limit, unless more have read the clock in it
and a request that read it in another window was counted between two of them. -/
theorem bounded_iff (l : Limit) (clock : Instant) (es : List Event) (key : String) (k : Int) :
    ((start clock).run l es).requests.countP (Request.passed l key k) ≤ l.maxRequests ↔
      l.maxRequests = 0 ∨
      (windows l key ((start clock).run l es).checks).count k ≤ l.maxRequests ∨
      (l.maxRequests < Store.maxCount ∧
        ¬∃ j ≠ k, [k, j, k].Sublist (windows l key ((start clock).run l es).checks)) := by
  rw [((Counted.start clock).run es).passed]
  exact granted_le_iff

/-- Two requests read the clock at the end of a second, and one at the beginning of the next one is counted
between them. -/
def handover : List Event :=
  [.enter "ann", .enter "ann", .enter "ann", .pass 999, .turn 0, .turn 1, .turn 0, .pass 1, .turn 2,
   .turn 2, .turn 1]

/-- Under a limit of one request in a second, two are let through in the same second. -/
theorem limit_exceeded : ∃ (l : Limit) (es : List Event),
    ¬∀ key k, ((start 0).run l es).requests.countP (Request.passed l key k) ≤ l.maxRequests := by
  refine ⟨.ofMilliseconds 1 1000, handover, ?_⟩
  intro h
  exact absurd (h "ann" 0) (by decide +kernel)

end Contest

end Storefront.RateLimit
