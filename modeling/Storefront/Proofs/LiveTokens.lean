import Storefront.Proofs.Courses
import Storefront.Proofs.Undisturbed

namespace Storefront.Account

open Password (Clear)

/-- The token that was issued, if one was. -/
def Dealing.token? (x : Dealing) : Option ResetToken :=
  match x.deed with
  | .issues t => some t
  | _ => none

/-- The tokens that have been issued. -/
def issued (P : Primitives) (past : List Transaction) : List ResetToken :=
  past.filterMap fun e => (e.dealing? P).bind Dealing.token?

/-- To a user who is stored the token was issued, less than `ttl` ago to the nanosecond, and since then neither
was another one issued to this user nor has a password been set. -/
def Live (P : Primitives) (ttl : Duration) (past : List Transaction) (users : Store) (token : ResetToken)
    (now : Instant) : Prop :=
  ∃ u ∈ users.values, ∃ t : Instant,
    (dealings P u.id past).getLast? = some ⟨u.id, .issues token, t⟩ ∧
      now.nanoseconds < t.nanoseconds + ttl.nanoseconds

/-- No token has been issued twice, and none has the digest of another one that is presented. -/
structure Unambiguous (P : Primitives) (past : List Transaction) (r : Reset) : Prop where
  fresh : (issued P past).Nodup
  digest : ∀ t ∈ issued P past, ∀ token : ResetToken, nonBlank r.token = some token.text →
    t.hash P = token.hash P → t = token

section Waiting

variable {P : Primitives} {s : Settings} {past : List Transaction} {users : Store} {u v : User}

/-- A record waits for the token that was issued last, if that was the last deed, and for none otherwise. -/
def Awaits (P : Primitives) (ttl : Duration) (u : User) : Option Dealing → Prop
  | some ⟨_, .issues t, now⟩ => u.resetHash = some (t.hash P) ∧ u.resetExpires = some (now + ttl.roundedUp)
  | _ => u.resetHash = none

theorem Awaits.token {ttl : Duration} {last : Option Dealing} {h : String} (ha : Awaits P ttl u last)
    (hh : u.resetHash = some h) : ∃ id t now, last = some ⟨id, .issues t, now⟩ ∧ t.hash P = h ∧
      u.resetExpires = some (now + ttl.roundedUp) := by
  rcases last with _ | ⟨id, w | t | w, now⟩
  · cases ha.symm.trans hh
  · cases ha.symm.trans hh
  · obtain ⟨ht, he⟩ := ha
    exact ⟨id, t, now, rfl, Option.some.inj (ht.symm.trans hh), he⟩
  · cases ha.symm.trans hh

/-- Every stored record waits for what the past says. -/
structure Waiting (P : Primitives) (ttl : Duration) (past : List Transaction) (users : Store) : Prop where
  kept : users.Kept
  awaits : ∀ id u, users.get? id = some u → Awaits P ttl u (dealings P id past).getLast?

theorem Waiting.start {ttl : Duration} (hk : users.Kept) (hn : ∀ u ∈ users.values, u.resetHash = none) :
    Waiting P ttl [] users := by
  refine ⟨hk, ?_⟩
  intro id u hu
  obtain rfl := hk.own_of_get? hu
  exact hn u (hk.mem_values.mpr hu)

theorem Waiting.transact (h : Waiting P s.resetLifetime past users) (a : Arrival) :
    Waiting P s.resetLifetime (past ++ [a.transact P s users]) (a.transact P s users).after := by
  refine ⟨a.transact_kept h.kept, ?_⟩
  intro id v hv
  have hr := a.transact_recorded h.kept hv
  rw [dealings_concat]
  generalize ((a.transact P s users).dealing? P).filter (·.who = id) = x at hr
  cases hr with
  | opened => simp [Awaits, User.new]
  | issued => simp [Awaits, User.issueReset, Settings.resetTtlMs]
  | renewed => simp [Awaits, User.changePassword, User.clearReset]
  | @kept u _ hu hs =>
    have ha := h.awaits id u hu
    simpa [Awaits, hs.resetHash, hs.resetExpires] using ha

theorem waiting (hk : users.Kept) (hn : ∀ u ∈ users.values, u.resetHash = none)
    (as : List Arrival) :
    Waiting P s.resetLifetime (users.transactions P s as) (users.after P s as) :=
  Store.course (.start hk hn) (fun _ _ a h => h.transact a) as

end Waiting

theorem nodup_filterMap {α β : Type} {f : α → Option β} {l : List α} (h : (l.filterMap f).Nodup)
    {x y : α} {b : β} (hx : x ∈ l) (hy : y ∈ l) (hfx : f x = some b) (hfy : f y = some b) : x = y := by
  obtain ⟨i, hi⟩ := List.mem_iff_getElem?.mp hx
  obtain ⟨j, hj⟩ := List.mem_iff_getElem?.mp hy
  obtain rfl := filterMap_inj h hi hj hfx hfy
  exact Option.some.inj (hi.symm.trans hj)

section Search

variable {P : Primitives} {ttl : Duration} {past : List Transaction} {users : Store} {token : ResetToken}
  {now : Instant} {id id' : UserId} {x y : Dealing}

theorem Dealing.of_last (h : (dealings P id past).getLast? = some x) :
    x.who = id ∧ ∃ e ∈ past, e.dealing? P = some x := by
  obtain ⟨hm, hi⟩ := List.mem_filter.mp (List.mem_of_getLast? h)
  exact ⟨of_decide_eq_true hi, List.mem_filterMap.mp hm⟩

theorem mem_issued (h : (dealings P id past).getLast? = some x) (hx : x.token? = some token) :
    token ∈ issued P past := by
  obtain ⟨_, e, he, hd⟩ := Dealing.of_last h
  exact List.mem_filterMap.mpr ⟨e, he, by rw [hd]; exact hx⟩

/-- No token is issued to two users. -/
theorem issued_once (hn : (issued P past).Nodup) (h : (dealings P id past).getLast? = some x)
    (h' : (dealings P id' past).getLast? = some y) (hx : x.token? = some token)
    (hy : y.token? = some token) : id = id' := by
  obtain ⟨rfl, e, he, hd⟩ := Dealing.of_last h
  obtain ⟨rfl, e', he', hd'⟩ := Dealing.of_last h'
  obtain rfl : e = e' := nodup_filterMap hn he he' (by rw [hd]; exact hx) (by rw [hd']; exact hy)
  rw [Option.some.inj (hd.symm.trans hd')]

/-- The user who waits for the digest is the one to whom the token was issued last. -/
theorem Waiting.live_iff (h : Waiting P ttl past users) (hn : (issued P past).Nodup)
    (hd : ∀ t ∈ issued P past, t.hash P = token.hash P → t = token) :
    Live P ttl past users token now ↔
      ∃ u, users.findByResetHash (token.hash P) = some u ∧
        Store.resetLive u (token.hash P) now = true := by
  -- a record that waits for the digest waits for this very token
  have hw (u : User) (hu : users.get? u.id = some u) (hh : u.resetHash = some (token.hash P)) :
      ∃ t : Instant, (dealings P u.id past).getLast? = some ⟨u.id, .issues token, t⟩ ∧
        u.resetExpires = some (t + ttl.roundedUp) := by
    obtain ⟨i, t', t, hl, ht, he⟩ := (h.awaits u.id u hu).token hh
    obtain rfl := hd t' (mem_issued hl rfl) ht
    obtain rfl : i = u.id := (Dealing.of_last hl).1
    exact ⟨t, hl, he⟩
  constructor
  · rintro ⟨u, hu, t, hl, ht⟩
    have hg := h.kept.mem_values.mp hu
    obtain ⟨hh, he⟩ : Awaits P ttl u (some ⟨u.id, .issues token, t⟩) := hl ▸ h.awaits u.id u hg
    cases hf : users.findByResetHash (token.hash P) with
    | none => simpa [hh] using List.find?_eq_none.mp hf u hu
    | some v =>
      have hv : users.get? v.id = some v := h.kept.get?_of_finds (Store.finds_findByResetHash.mpr hf) rfl
      have hvh : v.resetHash = some (token.hash P) := by simpa using List.find?_some hf
      -- the token is issued to one user only, so it is that user who is found
      obtain ⟨t', hl', _⟩ := hw v hv hvh
      have hi : u.id = v.id := issued_once hn hl hl' rfl rfl
      obtain rfl : u = v := Option.some.inj (hg.symm.trans (hi ▸ hv))
      exact ⟨u, rfl, by simp [Store.resetLive, hh, he, Instant.lt_add_roundedUp, ht]⟩
  · rintro ⟨u, hf, hl⟩
    have hu : users.get? u.id = some u := h.kept.get?_of_finds (Store.finds_findByResetHash.mpr hf) rfl
    simp only [Store.resetLive, Bool.and_eq_true, decide_eq_true_eq] at hl
    obtain ⟨hh, ht⟩ := hl
    obtain ⟨t, hl, he⟩ := hw u hu hh
    refine ⟨u, h.kept.mem_values.mpr hu, t, hl, ?_⟩
    rw [← Instant.lt_add_roundedUp]
    simpa [he] using ht

end Search

section Answers

variable {P : Primitives} {s : Settings} {users : Store} {now : Instant} {r : Reset} {d : Draws}
  {token : ResetToken} {p : Clear}

theorem resetPassword_ok {u : User} (hk : users.Kept) (hc : r.check P = .ok (token, p))
    (hu : users.findByResetHash (token.hash P) = some u)
    (hl : Store.resetLive u (token.hash P) now = true) :
    (Arrival.transact P s users ⟨.resetPassword r, d, now⟩).result = .ok .passwordReset := by
  have hg := hk.get?_of_finds (Store.finds_findByResetHash.mpr hu) rfl
  exact congrArg Prod.fst (resetPassword_alone hc hu hg hl)

theorem resetPassword_refused {e : Refusal} (hc : r.check P = .error e) :
    (Arrival.transact P s users ⟨.resetPassword r, d, now⟩).result = .error e := by
  simp only [Arrival.transact, Arrival.plan, Command.plan, resetPassword, hc]
  rfl

/-- Without a user whose token it is, the request comes to nothing at the search, at the look at the record
or at the call that spends the token. -/
theorem resetPassword_invalid (hk : users.Kept) (hc : r.check P = .ok (token, p))
    (hn : ¬∃ u, users.findByResetHash (token.hash P) = some u ∧
      Store.resetLive u (token.hash P) now = true) :
    (Arrival.transact P s users ⟨.resetPassword r, d, now⟩).result = .error invalidLink := by
  simp only [Arrival.transact, Arrival.plan, Command.plan, resetPassword, hc, Plan.findByResetHash,
    Plan.consumeReset]
  rw [Plan.run_ofExcept, Plan.run_call (by rw [Store.answer])]
  cases hu : users.findByResetHash (token.hash P) with
  | none => rfl
  | some u =>
    have hg := hk.get?_of_finds (Store.finds_findByResetHash.mpr hu) rfl
    have hl : Store.resetLive u (token.hash P) now = false := by
      simpa using fun hl => hn ⟨u, hu, hl⟩
    rw [Plan.run_orRefuse]
    split
    · have hw : users.answer now (.consumeReset u.id (token.hash P) (p.hash P s.pepper d.salt) now) =
          (.ok false, users) := by simp [Store.answer, Store.consumeReset, hg, hl]
      rw [Plan.run_call hw]
      rfl
    · rfl

end Answers

/-- After any course of requests that starts without pending resets, a new password is accepted if and only
if the request is in order and its token is live; and that it is not live is told as an invalid link. -/
theorem reset_iff_live {P : Primitives} {s : Settings} {users : Store} (hk : users.Kept)
    (hp : ∀ u ∈ users.values, u.resetHash = none) (as : List Arrival) (r : Reset) (d : Draws)
    (now : Instant) (hu : Unambiguous P (users.transactions P s as) r) :
    ((Arrival.transact P s (users.after P s as) ⟨.resetPassword r, d, now⟩).result =
        .ok .passwordReset ↔
      ∃ token w, r.Acceptable P token w ∧
        Live P s.resetLifetime (users.transactions P s as) (users.after P s as) token now) ∧
    ∀ token w, r.Acceptable P token w →
      ¬Live P s.resetLifetime (users.transactions P s as) (users.after P s as) token now →
      (Arrival.transact P s (users.after P s as) ⟨.resetPassword r, d, now⟩).result =
        .error invalidLink := by
  have hw := waiting (P := P) (s := s) hk hp as
  have hl {token w} (ha : r.Acceptable P token w) : Live P s.resetLifetime _ _ token now ↔ _ :=
    hw.live_iff hu.fresh fun t ht => hu.digest t ht token ha.token
  have hc {token w} (ha : r.Acceptable P token w) : r.check P = .ok (token, .forVerification P w) :=
    Reset.check_eq_ok.mpr ⟨w, ha, rfl⟩
  refine ⟨⟨?_, ?_⟩, ?_⟩
  · intro h
    cases hr : r.check P with
    | error e => cases (resetPassword_refused hr).symm.trans h
    | ok x =>
      obtain ⟨token, p⟩ := x
      obtain ⟨w, ha, rfl⟩ := Reset.check_eq_ok.mp hr
      refine ⟨token, w, ha, ?_⟩
      by_contra hno
      cases (resetPassword_invalid hw.kept hr (fun hex => hno ((hl ha).mpr hex))).symm.trans h
  · rintro ⟨token, w, ha, hlive⟩
    obtain ⟨u, hu, hlu⟩ := (hl ha).mp hlive
    exact resetPassword_ok hw.kept (hc ha) hu hlu
  · intro token w ha hno
    exact resetPassword_invalid hw.kept (hc ha) fun hex => hno ((hl ha).mpr hex)

/-- Somebody opens an account and asks for a link. -/
def forgetful : List Arrival :=
  let ann : Registration := ⟨some "Ann", some "ann@b.co", some "Violet-77", none⟩
  [⟨.register ann, ⟨.ofNat 1, [], ⟨""⟩⟩, 0⟩,
   ⟨.forgotPassword (some "ann@b.co"), ⟨.ofNat 1, [], ⟨"0f1e2d3c"⟩⟩, 1⟩]

/-- The link is followed; there are blanks around the token. -/
def remembers : Reset := ⟨some " 0f1e2d3c ", some "Indigo-88", none⟩

theorem remembers_acceptable : remembers.Acceptable .ascii ⟨"0f1e2d3c"⟩ "Indigo-88" :=
  ⟨by decide, by decide, by decide, by decide +kernel⟩

/-- The settings in which reset tokens are to live longer than 63 bits can say in milliseconds. -/
def longLived : Settings := { Settings.usual with resetTtl := .ofSeconds 9223372036854776 }

theorem forgetful_issued : ∀ s ∈ [Settings.usual, longLived],
    issued .ascii (Store.transactions .ascii s [] forgetful) = [⟨"0f1e2d3c"⟩] ∧
      (dealings .ascii (.ofNat 1) (Store.transactions .ascii s [] forgetful)).getLast? =
        some ⟨.ofNat 1, .issues ⟨"0f1e2d3c"⟩, 1⟩ ∧
      (Store.after .ascii s [] forgetful).values.map User.id = [.ofNat 1] := by
  decide +kernel

theorem forgetful_live {s : Settings} (hs : s ∈ [Settings.usual, longLived]) {ttl : Duration}
    {now : Instant} (ht : now.nanoseconds < Instant.nanoseconds 1 + ttl.nanoseconds) :
    Live .ascii ttl (Store.transactions .ascii s [] forgetful) (Store.after .ascii s [] forgetful)
      ⟨"0f1e2d3c"⟩ now := by
  obtain ⟨_, hl, hu⟩ := forgetful_issued s hs
  obtain ⟨u, hm, hi⟩ := List.mem_map.mp (hu ▸ List.mem_singleton_self _)
  exact ⟨u, hm, 1, hi ▸ hl, ht⟩

theorem forgetful_unambiguous {s : Settings} (hs : s ∈ [Settings.usual, longLived]) :
    Unambiguous .ascii (Store.transactions .ascii s [] forgetful) remembers := by
  have hi := (forgetful_issued s hs).1
  refine ⟨by simp [hi], ?_⟩
  rintro t ht ⟨text⟩ hx _
  rw [hi, List.mem_singleton] at ht
  cases remembers_acceptable.token.symm.trans hx
  exact ht

theorem remembers_in_time :
    Unambiguous .ascii (Store.transactions .ascii .usual [] forgetful) remembers ∧
      (Arrival.transact .ascii .usual (Store.after .ascii .usual [] forgetful)
        ⟨.resetPassword remembers, ⟨.ofNat 1, [], ⟨""⟩⟩, 3600000⟩).result = .ok .passwordReset := by
  have hs : Settings.usual ∈ [Settings.usual, longLived] := by simp
  have hu := forgetful_unambiguous hs
  refine ⟨hu, (reset_iff_live .nil (by simp [Keyed.values]) forgetful _ _ _ hu).1.mpr ?_⟩
  exact ⟨_, _, remembers_acceptable, forgetful_live hs (by decide)⟩

-- a millisecond after a token was issued that lives for a millisecond and a half, half a millisecond is left
example :
    let s := { Settings.usual with resetTtl := ⟨1500000⟩ }
    (Arrival.transact .ascii s (Store.after .ascii s [] forgetful)
      ⟨.resetPassword remembers, ⟨.ofNat 1, [], ⟨""⟩⟩, 2⟩).result.isOk = true := by decide +kernel

/-- A token is refused after an hour where the lifetime that was set is longer than 63 bits can say in
milliseconds. -/
theorem long_lifetime_fails :
    Unambiguous .ascii (Store.transactions .ascii longLived [] forgetful) remembers ∧
      remembers.Acceptable .ascii ⟨"0f1e2d3c"⟩ "Indigo-88" ∧
      Live .ascii longLived.resetTtl (Store.transactions .ascii longLived [] forgetful)
        (Store.after .ascii longLived [] forgetful) ⟨"0f1e2d3c"⟩ 3600001 ∧
      (Arrival.transact .ascii longLived (Store.after .ascii longLived [] forgetful)
        ⟨.resetPassword remembers, ⟨.ofNat 1, [], ⟨""⟩⟩, 3600001⟩).result = .error invalidLink := by
  have hs : longLived ∈ [Settings.usual, longLived] := by simp
  refine ⟨forgetful_unambiguous hs, remembers_acceptable, forgetful_live hs (by decide), ?_⟩
  have hk := (waiting (P := .ascii) (s := longLived) .nil (by simp [Keyed.values]) forgetful).kept
  have hl : ∀ u ∈ (Store.after .ascii longLived [] forgetful).findByResetHash
        (ResetToken.hash .ascii ⟨"0f1e2d3c"⟩),
      Store.resetLive u (ResetToken.hash .ascii ⟨"0f1e2d3c"⟩) 3600001 = false := by decide +kernel
  refine resetPassword_invalid hk (Reset.check_eq_ok.mpr ⟨_, remembers_acceptable, rfl⟩) ?_
  rintro ⟨u, hu, hlu⟩
  simp [hl u hu] at hlu

end Storefront.Account
