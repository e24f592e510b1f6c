import Storefront.Proofs.Keyed
import Storefront.RateLimit

namespace Storefront.RateLimit

namespace Limit

/-- The number of the window that an instant falls into. -/
def windowIndex (l : Limit) (now : Instant) : Int := now / l.windowMs

variable {l : Limit} {t t' : Instant}

theorem windowMs_pos (l : Limit) : 0 < l.windowMs := by
  unfold windowMs
  omega

theorem windowStart_inj : l.windowStart t = l.windowStart t' ↔ l.windowIndex t = l.windowIndex t' :=
  Int.mul_eq_mul_right_iff (Int.ne_of_gt l.windowMs_pos)

theorem windowIndex_mono (h : t ≤ t') : l.windowIndex t ≤ l.windowIndex t' :=
  Int.ediv_le_ediv l.windowMs_pos h

/-- An instant lies before the end of its window. -/
theorem lt_windowEnd (l : Limit) (t : Instant) : t < l.windowStart t + l.windowMs := by
  have h := Int.lt_ediv_add_one_mul_self t l.windowMs_pos
  rwa [Int.add_mul, Int.one_mul] at h

end Limit

/-- How many requests a counter has counted in the window of `now`. -/
def held (old : Option Counter) (l : Limit) (now : Instant) : Nat :=
  match old with
  | some c => if c.start = l.windowStart now ∧ c.length = l.windowMs then c.count else 0
  | none => 0

theorem advance_eq (old : Option Counter) (l : Limit) (now : Instant) :
    Store.advance old l now =
      ⟨l.windowStart now, l.windowMs, min (held old l now + 1) Store.maxCount⟩ := by
  cases old with
  | none => rfl
  | some c =>
    simp only [Store.advance, held]
    split
    · rename_i h
      rw [← h.1, ← h.2]
    · rfl

theorem held_advance (old : Option Counter) (l : Limit) (now t : Instant) :
    held (some (Store.advance old l now)) l t =
      if l.windowIndex t = l.windowIndex now then min (held old l now + 1) Store.maxCount else 0 := by
  simp only [advance_eq, held, and_true, Limit.windowStart_inj, eq_comm]

/-- A counter that is purged counts for no later instant. -/
theorem held_purged {c : Counter} {l : Limit} {now t : Instant} (h : c.start + c.length ≤ now)
    (ht : now ≤ t) : held (some c) l t = 0 := by
  have hl := l.lt_windowEnd t
  simp only [held, ite_eq_right_iff]
  rintro ⟨hs, hw⟩
  rw [← hs, ← hw] at hl
  exact absurd (Int.lt_of_lt_of_le hl h) (Int.not_lt.mpr ht)

/-- What is asked of a store. -/
inductive Call where
  | check (key : String) (l : Limit) (now : Instant)
  | purge (now : Instant)

namespace Call

def time : Call → Instant
  | .check _ _ t => t
  | .purge t => t

/-- Whether a call is a check of this key. -/
def asks (key : String) : Call → Bool
  | .check k _ _ => k = key
  | .purge _ => false

/-- Whether a call is a check of this key in the window of `now`. -/
def counts (key : String) (l : Limit) (now : Instant) : Call → Bool
  | .check k _ t => k = key ∧ l.windowIndex t = l.windowIndex now
  | .purge _ => false

section

variable (key k : String) (l l' : Limit) (now t : Instant)

@[simp] theorem asks_check : (check k l t).asks key = decide (k = key) := rfl

@[simp] theorem asks_purge : (purge t).asks key = false := rfl

@[simp] theorem counts_check :
    (check k l' t).counts key l now = decide (k = key ∧ l.windowIndex t = l.windowIndex now) := rfl

@[simp] theorem counts_purge : (purge t).counts key l now = false := rfl

end

/-- The verdict on a check that follows from the list of all calls before it. -/
def judged? (past : List Call) : Call → Option (String × Verdict)
  | .check key l now =>
    let n := past.countP (counts key l now) + 1
    some (key, ⟨n ≤ l.maxRequests, l.maxRequests, l.maxRequests - min n l.maxRequests,
      (l.windowIndex now + 1) * l.windowMs⟩)
  | .purge _ => none

end Call

/-- Every key is checked against one limit. -/
def OneLimit (cs : List Call) : Prop :=
  ∀ ⦃key l l' t t'⦄, Call.check key l t ∈ cs → Call.check key l' t' ∈ cs → l = l'

theorem OneLimit.subset {cs cs' : List Call} (h : OneLimit cs) (hs : cs' ⊆ cs) : OneLimit cs' :=
  fun _ _ _ _ _ hx hy => h (hs hx) (hs hy)

/-- The verdicts on the checks among some calls, each by the full log. -/
def judged (past : List Call) : List Call → List (String × Verdict)
  | [] => []
  | c :: cs => (c.judged? past).toList ++ judged (past ++ [c]) cs

namespace Store

/-- The verdict on a check, and the store after a call. -/
def serve (s : Store) : Call → Option (String × Verdict) × Store
  | .check key l now => let (v, s) := s.check key l now; (some (key, v), s)
  | .purge now => (none, s.purge now)

/-- The verdicts that a store gives on the checks among some calls. -/
def verdicts (s : Store) : List Call → List (String × Verdict)
  | [] => []
  | c :: cs => (s.serve c).1.toList ++ verdicts (s.serve c).2 cs

/-- The counter of a key says, for every window that can still come, what the log says.  It starts anew with each
window and may be purged; as long as time does not go back it says what a count over the whole log says. -/
structure Reflects (past : List Call) (s : Store) : Prop where
  distinct : Keyed.Distinct s
  held : ∀ key l, (∀ l' t, .check key l' t ∈ past → l' = l) → ∀ t, (∀ c ∈ past, c.time ≤ t) →
    held (s.get? key) l t = min (past.countP (Call.counts key l t)) maxCount

theorem Reflects.nil : Reflects [] [] := ⟨.nil, fun _ _ _ _ _ => rfl⟩

variable {past : List Call} {s : Store} {key : String} {l : Limit} {now : Instant}

/-- No check of the past lies in a window that begins after it. -/
theorem countP_later {t : Instant} (h : ∀ c ∈ past, c.time ≤ now) (ht : now ≤ t)
    (hn : l.windowIndex t ≠ l.windowIndex now) : past.countP (Call.counts key l t) = 0 := by
  apply List.countP_eq_zero.mpr
  intro c hc
  cases c with
  | purge => simp
  | check k l' t' =>
    have hm := l.windowIndex_mono (h _ hc)
    have hm' := l.windowIndex_mono ht
    simp only [Call.counts_check, Call.time, decide_eq_true_eq] at hm ⊢
    omega

theorem Reflects.check (h : Reflects past s) (hp : ∀ c ∈ past, c.time ≤ now)
    (hl : ∀ l' t, .check key l' t ∈ past → l' = l) :
    Reflects (past ++ [.check key l now]) (s.check key l now).2 := by
  refine ⟨h.distinct.put _ _, ?_⟩
  intro key' l' hl' t ht
  simp only [List.mem_append, List.mem_singleton] at hl' ht
  have hnow : now ≤ t := ht _ (.inr rfl)
  rw [Store.check, Keyed.get?_put, List.countP_append, List.countP_singleton]
  split
  · rename_i hk
    subst hk
    obtain rfl := hl' l now (.inr rfl)
    rw [held_advance, h.held _ _ hl now hp]
    split
    · rename_i hw
      have hc : Call.counts key' l t = Call.counts key' l now := by
        funext c
        simp only [Call.counts, hw]
      rw [hc, if_pos (by simp)]
      omega
    · rename_i hw
      simp [countP_later hp hnow hw, Ne.symm hw]
  · rename_i hk
    rw [h.held _ _ (fun _ _ hm => hl' _ _ (.inl hm)) t fun c hc => ht c (.inl hc)]
    simp [Ne.symm hk]

theorem Reflects.purge (h : Reflects past s) :
    Reflects (past ++ [.purge now]) (s.purge now) := by
  refine ⟨h.distinct.filter _, ?_⟩
  intro key l hl t ht
  simp only [List.mem_append, List.mem_singleton] at hl ht
  have he := h.held key l (fun _ _ hm => hl _ _ (.inl hm)) t fun c hc => ht c (.inl hc)
  rw [List.countP_append, List.countP_singleton, Call.counts_purge, if_neg (by simp), Nat.add_zero,
    ← he, Store.purge, h.distinct.get?_filter]
  cases s.get? key with
  | none => rfl
  | some c =>
    by_cases hn : now < c.start + c.length
    · rw [Option.filter_some_pos (by simpa using hn)]
    · rw [Option.filter_some_neg (by simpa using hn)]
      exact (held_purged (Int.not_lt.mp hn) (ht (Call.purge now) (.inr rfl))).symm

/-- The verdict on a check is the one that follows from the log. -/
theorem Reflects.judged (h : Reflects past s) (hp : ∀ c ∈ past, c.time ≤ now)
    (hl : ∀ l' t, .check key l' t ∈ past → l' = l) (hm : l.maxRequests < maxCount) :
    some (key, (s.check key l now).1) = (Call.check key l now).judged? past := by
  have hw : l.windowStart now + l.windowMs = (l.windowIndex now + 1) * l.windowMs := by
    rw [Int.add_mul, Int.one_mul]
    rfl
  simp only [Store.check, verdict, advance_eq, h.held _ _ hl now hp, Call.judged?, hw,
    Option.some.injEq, Prod.mk.injEq, Verdict.mk.injEq, decide_eq_decide, true_and, and_true]
  omega

theorem Reflects.serve (h : Reflects past s) {c : Call} (hp : ∀ x ∈ past, x.time ≤ c.time)
    (hl : OneLimit (past ++ [c])) : Reflects (past ++ [c]) (s.serve c).2 := by
  cases c with
  | check key l now =>
    exact h.check hp fun l' t hm => hl (List.mem_append_left _ hm) (List.mem_append_right _ (.head _))
  | purge now => exact h.purge

/-- As long as time does not go back, a store that is in accord with the log stays so. -/
theorem Reflects.verdicts_eq (h : Reflects past s) {cs : List Call}
    (hc : (past ++ cs).Pairwise fun c c' => c.time ≤ c'.time)
    (hl : OneLimit (past ++ cs))
    (hm : ∀ key l t, .check key l t ∈ cs → l.maxRequests < maxCount) :
    s.verdicts cs = RateLimit.judged past cs := by
  induction cs generalizing past s with
  | nil => rfl
  | cons c cs ih =>
    have hp : ∀ x ∈ past, x.time ≤ c.time := fun x hx =>
      (List.pairwise_append.mp hc).2.2 x hx c List.mem_cons_self
    have hv : (s.serve c).1 = c.judged? past := by
      cases c with
      | check key l now =>
        exact h.judged hp (fun l' t hx => hl (List.mem_append_left _ hx)
          (List.mem_append_right _ (.head _))) (hm _ _ _ (.head _))
      | purge now => rfl
    rw [List.append_cons] at hc hl
    have hs := h.serve hp (hl.subset (List.subset_append_left _ _))
    rw [verdicts, RateLimit.judged, hv, ih hs hc hl fun _ _ _ hx => hm _ _ _ (List.mem_cons_of_mem _ hx)]

end Store

/-- The full log is asked about one key only. -/
theorem judged_filter (key : String) (past cs : List Call) :
    (judged past cs).filter (·.1 = key) = judged (past.filter (·.asks key)) (cs.filter (·.asks key)) := by
  induction cs generalizing past with
  | nil => rfl
  | cons c cs ih =>
    rw [judged, List.filter_append, ih, List.filter_append]
    cases c with
    | purge now => simp [Call.judged?, Call.asks]
    | check k l t =>
      by_cases hk : k = key
      · subst hk
        have hc : (past.filter (·.asks k)).countP (Call.counts k l t) =
            past.countP (Call.counts k l t) := by
          rw [List.countP_filter]
          apply List.countP_congr
          intro c _
          cases c <;> simp +contextual
        simp [Call.judged?, judged, hc]
      · simp [Call.judged?, hk]

/-- The verdict on every check is the one that follows from the list of all calls before it, and for one key
the verdicts are those that the checks of this key alone would get. -/
theorem Store.verdicts_eq_judged {cs : List Call} (hc : cs.Pairwise fun c c' => c.time ≤ c'.time)
    (hl : OneLimit cs)
    (hm : ∀ key l t, .check key l t ∈ cs → l.maxRequests < maxCount) :
    verdicts [] cs = judged [] cs ∧ ∀ key,
      (verdicts [] cs).filter (·.1 = key) = verdicts [] (cs.filter (·.asks key)) := by
  have he := Reflects.nil.verdicts_eq hc hl hm
  refine ⟨he, ?_⟩
  intro key
  have hs : cs.filter (·.asks key) ⊆ cs := fun _ hx => (List.mem_filter.mp hx).1
  rw [he, judged_filter]
  exact (Reflects.nil.verdicts_eq (hc.filter _) (hl.subset hs) fun _ _ _ hx => hm _ _ _ (hs hx)).symm

/-- Two clients with two requests a second each; the counters of the first second are purged while the
second one goes on. -/
def Store.rush : List Call :=
  let l := Limit.ofMilliseconds 2 1000
  [.check "ann" l 0, .check "bob" l 400, .check "ann" l 700, .purge 800, .check "ann" l 999,
   .check "ann" l 1000, .purge 1500, .check "ann" l 1500, .purge 1700, .check "bob" l 1999,
   .check "ann" l 1999]

theorem Store.rush_judged :
    (Store.rush.Pairwise fun c c' => c.time ≤ c'.time) ∧ OneLimit rush ∧
      (∀ key l t, .check key l t ∈ rush → l.maxRequests < maxCount) ∧
      verdicts [] rush = judged [] rush ∧
      (judged [] rush).map (fun v => (v.1, v.2.allowed, v.2.remaining)) =
        [("ann", true, 1), ("bob", true, 1), ("ann", true, 0), ("ann", false, 0), ("ann", true, 1),
         ("ann", true, 0), ("bob", true, 1), ("ann", false, 0)] := by
  have hc : Store.rush.Pairwise fun c c' => c.time ≤ c'.time := by decide
  have hl : ∀ key l t, Call.check key l t ∈ rush → l = .ofMilliseconds 2 1000 := by
    intro key l t h
    simp only [rush, List.mem_cons, Call.check.injEq, reduceCtorEq, List.not_mem_nil] at h
    grind
  have hm : ∀ key l t, .check key l t ∈ rush → l.maxRequests < maxCount := by
    intro key l t h
    rw [hl key l t h]
    decide
  have ho : OneLimit rush := fun _ _ _ _ _ hx hy => (hl _ _ _ hx).trans (hl _ _ _ hy).symm
  exact ⟨hc, ho, hm, (verdicts_eq_judged hc ho hm).1, by decide +kernel⟩

end Storefront.RateLimit
