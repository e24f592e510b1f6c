import Storefront.Proofs.Callers
import Storefront.Proofs.History

namespace Storefront.Account

open Token (IsSecond)

namespace Arrival

variable {P : Primitives} {s : Settings} {a : Arrival} {now : Instant} {users users' : Store}
  {k : Progress} {u v : User} {id : UserId}

/-- Where the record comes from that is stored after a request. -/
theorem Within.stored (h : a.Within P s now users k users') (hv : users'.get? id = some v) :
    users.get? id = some v ∨
    (∃ k, v.id = id ∧ a.Writes P s k (.create v)) ∨
    (∃ u k, users.get? id = some u ∧ k.found = some (some u) ∧ a.Writes P s k (.update v)) ∨
    ∃ u p, users.get? id = some u ∧ v = u.changePassword p now := by
  rcases h.change with ⟨rfl, _⟩ | ⟨k₀, c, hw, _, hf, hd, _⟩
  · exact .inl hv
  · cases hd with
    | @create w =>
      rcases Keyed.get?_put_eq_some.mp hv with ⟨hi, rfl⟩ | ⟨_, hv⟩
      · exact .inr (.inl ⟨k₀, hi.symm, hw⟩)
      · exact .inl hv
    | @update w =>
      rcases Keyed.get?_put_eq_some.mp hv with ⟨hi, rfl⟩ | ⟨_, hv⟩
      · obtain ⟨u, hu⟩ := hw.found_update
        refine .inr (.inr (.inl ⟨u, k₀, ?_, hu, hw⟩))
        rw [hi, hw.update_id hu]
        exact h.found u (hf ▸ hu)
      · exact .inl hv
    | @consumeReset _ _ p _ u hg =>
      rcases Keyed.get?_put_eq_some.mp hv with ⟨hi, rfl⟩ | ⟨_, hv⟩
      · exact .inr (.inr (.inr ⟨u, p, hi ▸ hg, rfl⟩))
      · exact .inl hv
    | delete => exact .inl (Keyed.get?_of_remove hv)

theorem Writes.create_role (h : a.Writes P s k (.create v)) :
    v.id = a.draws.id ∧ (v.role = .user ∨ ∃ x, a.command = .createAdmin x) := by
  cases h with
  | register => exact ⟨rfl, .inl rfl⟩
  | createAdmin => exact ⟨rfl, .inr ⟨_, rfl⟩⟩

theorem Writes.update_role (h : a.Writes P s k (.update v)) (hf : k.found = some (some u)) :
    v.role = u.role ∨ ∃ id c, a.command = .updateUser id c := by
  cases h with
  | forgotPassword h => cases h.symm.trans hf; exact .inl rfl
  | updateProfile _ h => cases h.symm.trans hf; exact .inl rfl
  | changePassword _ h => cases h.symm.trans hf; exact .inl rfl
  | updateUser => exact .inr ⟨_, _, rfl⟩

/-- A role is changed by a superadmin's change of a user only. -/
theorem Within.role_change (h : a.Within P s now users k users')
    (hn : users.get? a.draws.id = none) (hu : users.get? id = some u)
    (hv : users'.get? id = some v) (hr : u.role ≠ v.role) : ∃ id c, a.command = .updateUser id c := by
  rcases h.stored hv with h | ⟨k, hi, hw⟩ | ⟨w, k, hg, hf, hw⟩ | ⟨w, p, hg, rfl⟩
  · cases hu.symm.trans h
    exact absurd rfl hr
  · rw [← hw.create_role.1, hi, hu] at hn
    cases hn
  · cases hu.symm.trans hg
    rcases hw.update_role hf with he | he
    · exact absurd he.symm hr
    · exact he
  · cases hu.symm.trans hg
    exact absurd rfl hr

/-- A user that starts with a role is one that a superadmin has appointed. -/
theorem Within.appointed (h : a.Within P s now users k users') (hu : users.get? id = none)
    (hv : users'.get? id = some v) (hr : v.role ≠ .user) : ∃ x, a.command = .createAdmin x := by
  rcases h.stored hv with h | ⟨k, _, hw⟩ | ⟨w, k, hg, _⟩ | ⟨w, p, hg, _⟩
  · rw [hu] at h
    cases h
  · rcases hw.create_role.2 with he | he
    · exact absurd he hr
    · exact he
  · rw [hu] at hg
    cases hg
  · rw [hu] at hg
    cases hg

end Arrival

/-- The commands that are given in the panel. -/
inductive Command.InPanel : Command → Prop where
  | createAdmin {a} : InPanel (.createAdmin a)
  | listUsers : InPanel .listUsers
  | deleteUser {id} : InPanel (.deleteUser id)
  | updateUser {id c} : InPanel (.updateUser id c)

section Requests

open Http (Request Response)

variable {r : Request} {c : Command}

theorem Entrance.not_inPanel {t : Entrance} (h : t.command r = .ok c) : ¬c.InPanel := by
  intro hp
  cases t with
  | refresh | logout =>
    cases h
    cases hp
  | register | login | forgotPassword | resetPassword =>
    obtain ⟨e, _, rfl⟩ := form_ok h
    cases hp

theorem Own.not_inPanel {who : UserId} {o : Own} (h : o.command r who = .ok c) : ¬c.InPanel := by
  intro hp
  cases o with
  | profile | deleteAccount =>
    cases h
    cases hp
  | updateProfile | changePassword =>
    obtain ⟨e, _, rfl⟩ := form_ok h
    cases hp

theorem Resource.segments_panel {target : String} {p : Panel} (h : ofTarget? target = some (.panel p)) :
    ∃ path, Http.segments target = "" :: "superadmin" :: path := by
  unfold ofTarget? at h
  split at h
  · obtain ⟨_, _, he⟩ := Option.map_eq_some_iff.mp h
    cases he
  · obtain ⟨_, _, he⟩ := Option.map_eq_some_iff.mp h
    cases he
  · rename_i hs
    exact ⟨_, hs⟩
  · rename_i hs
    exact ⟨_, hs⟩
  · rename_i hs
    exact ⟨_, hs⟩
  · cases h

/-- A command of the panel comes from a superadmin. -/
theorem Setup.Admits.superadmin {σ : Type} {w : Setup σ} {now : Instant} (h : w.Admits now r c)
    (hp : c.InPanel) :
    (∃ path, Http.segments r.target = "" :: "superadmin" :: path) ∧
    ∃ caller, Caller.ofHeaders w.primitives w.settings.keys r.headers now = .ok caller ∧
      caller.role = .superadmin := by
  cases h with
  | entrance _ hc => exact absurd hp (Entrance.not_inPanel hc)
  | own _ _ hc => exact absurd hp (Own.not_inPanel hc)
  | panel ht hw hr => exact ⟨Resource.segments_panel ht, _, hw, hr⟩

end Requests

namespace Exchange

/-- The role of a stored user is another one afterwards. -/
def ChangesRole (e : Exchange Store) : Prop :=
  ∃ id u v, e.before.users.get? id = some u ∧ e.after.users.get? id = some v ∧ u.role ≠ v.role

/-- There is a new user with a role other than that of customers. -/
def Appoints (e : Exchange Store) : Prop :=
  ∃ id v, e.before.users.get? id = none ∧ e.after.users.get? id = some v ∧ v.role ≠ .user

/-- The answer has the list of all users. -/
def ListsUsers (e : Exchange Store) : Prop := ∃ v, e.answer.body.member? "users" = some v

/-- The answer has an access token. -/
def Gives (e : Exchange Store) (t : String) : Prop :=
  e.answer.body.member? "accessToken" = some (.text t)

/-- The identifier that is drawn for a new user is nobody's yet. -/
def DrawsFresh (e : Exchange Store) : Prop := e.before.users.get? e.visit.draws.id = none

/-- The request has an access token in its header that is good for these claims. -/
def Bears (P : Primitives) (s : Settings) (e : Exchange Store) (t : String) (c : Token.Claims) :
    Prop :=
  bearerToken? e.visit.request.headers = some t ∧
    s.keys.verify P .access t e.visit.time = .ok c

end Exchange

/-- No access token is good that has not been given in an earlier answer. -/
def OwnTokens (P : Primitives) (s : Settings) (es : List (Exchange Store)) : Prop :=
  ∀ past e future, es = past ++ e :: future → ∀ t c, e.Bears P s t c → ∃ x ∈ past, x.Gives t

variable {P : Primitives} {s : Settings} {e : Exchange Store} {c : Command} {k : Progress}

theorem Setup.Carried.inPanel (h : Setup.Carried P s e c k)
    (hn : e.DrawsFresh) (hp : e.ChangesRole ∨ e.Appoints ∨ e.ListsUsers) : c.InPanel := by
  rcases hp with ⟨id, u, v, hu, hv, hr⟩ | ⟨id, v, hu, hv, hr⟩ | ⟨v, hv⟩
  · obtain ⟨id, x, rfl⟩ := h.within.role_change hn hu hv hr
    exact .updateUser
  · obtain ⟨x, rfl⟩ := h.within.appointed hu hv hr
    exact .createAdmin
  · obtain ⟨r, he, hb⟩ := h.answer
    rcases hb with hb | hb
    · rw [hb] at hv
      obtain ⟨us, rfl⟩ := answerOf_users hv
      cases he
      exact .listUsers
    · rw [hb] at hv
      cases hv

theorem Arrival.Within.created {a : Arrival} {now : Instant} {users users' : Store} {u : User}
    {r : Registration} (h : a.Within P s now users k users') (hc : a.command = .register r)
    (hw : k.wrote = some (.create u, true)) : u.role = .user := by
  rcases h.change with ⟨_, hn⟩ | ⟨k₀, c, hx, _, _, _, he⟩
  · exact absurd hw (hn _)
  · cases he.symm.trans hw
    rcases hx.create_role.2 with hr | ⟨x, hr⟩
    · exact hr
    · cases hc.symm.trans hr

/-- An access token is issued at once to the user that was found, or to the one that has registered. -/
theorem Arrival.Yields.access {a : Arrival} {o : Outcome} {t : String} (h : a.Yields P s k o)
    (ho : o.access? = some t) :
    ∃ u, t = s.keys.issue P .access u.subject k.now ∧ (k.found = some (some u) ∨
      (∃ r, a.command = .register r) ∧ k.wrote = some (.create u, true)) := by
  cases h with
  | @registered _ _ _ _ u hw => exact ⟨u, (Option.some.inj ho).symm, .inr ⟨⟨_, rfl⟩, hw⟩⟩
  | @signedIn _ _ _ _ u _ _ _ hf => exact ⟨u, (Option.some.inj ho).symm, .inl hf⟩
  | @refreshed _ _ _ _ u hf => exact ⟨u, (Option.some.inj ho).symm, .inl hf⟩
  | _ => cases ho

/-- An access token is given to a stored user, or to a new one, who is a customer. -/
theorem Setup.Carried.gives (h : Setup.Carried P s e c k) {t : String} (hg : e.Gives t) :
    ∃ u, t = s.keys.issue P .access u.subject e.visit.time ∧
      (e.before.users.get? u.id = some u ∨ u.role = .user) := by
  obtain ⟨r, he, hb⟩ := h.answer
  unfold Exchange.Gives at hg
  rcases hb with hb | hb
  · rw [hb] at hg
    obtain ⟨o, x, rfl, ho, hx⟩ := answerOf_accessToken hg
    obtain ⟨u, hu, hf⟩ := Arrival.Yields.access he ho
    refine ⟨u, by rw [Json.Value.text.inj hx, hu, h.within.at_now], ?_⟩
    rcases hf with hf | ⟨⟨r, hr⟩, hw⟩
    · exact .inl (h.within.found u hf)
    · exact .inr (h.within.created hr hw)
  · rw [hb] at hg
    cases hg

section Histories

variable {st : State Store} {vs : List Visit}

/-- A request that takes a privilege has given a command of the panel. -/
theorem Setup.history_inPanel (hk : st.users.Kept) (he : e ∈ (inMemory P s).history st vs)
    (hn : e.DrawsFresh) (hp : e.ChangesRole ∨ e.Appoints ∨ e.ListsUsers) :
    ∃ c k, Carried P s e c k ∧ c.InPanel := by
  rcases history_cases hk he with ⟨hu, hq⟩ | ⟨c, k, hx⟩
  · exfalso
    rcases hp with ⟨id, u, v, hg, hv, hr⟩ | ⟨id, v, hg, hv, _⟩ | ⟨v, hv⟩
    · rw [hu, hg] at hv
      cases hv
      exact hr rfl
    · rw [hu, hg] at hv
      cases hv
    · rw [hq.2] at hv
      cases hv
  · exact ⟨c, k, hx, hx.inPanel hn hp⟩

theorem Setup.history_gives (hk : st.users.Kept) (he : e ∈ (inMemory P s).history st vs) {t : String}
    (hg : e.Gives t) :
    ∃ u, t = s.keys.issue P .access u.subject e.visit.time ∧
      (e.before.users.get? u.id = some u ∨ u.role = .user) := by
  rcases history_cases hk he with ⟨_, hq⟩ | ⟨c, k, hx⟩
  · rw [Exchange.Gives, hq.1] at hg
    cases hg
  · exact hx.gives hg

/-- Whoever changes a role, appoints somebody or is shown the users does so in the panel, with an access
token of a user who was a superadmin at an earlier time, and no longer ago than access tokens live. -/
theorem privileged_by_superadmin (hk : st.users.Kept) (hc : vs.Pairwise fun v v' => v.time ≤ v'.time)
    (hs : ∀ v ∈ vs, IsSecond v.time.seconds ∧ IsSecond (v.time.seconds + s.accessTtl.seconds))
    (ho : OwnTokens P s ((Setup.inMemory P s).history st vs)) {past future : List (Exchange Store)}
    (h : (Setup.inMemory P s).history st vs = past ++ e :: future) (hn : e.DrawsFresh)
    (hp : e.ChangesRole ∨ e.Appoints ∨ e.ListsUsers) :
    (∃ path, Http.segments e.visit.request.target = "" :: "superadmin" :: path) ∧
    ∃ t c id, e.Bears P s t c ∧ Uuid.ofPadded? c.subject.id = some id ∧
      ∃ x ∈ past, x.visit.time ≤ e.visit.time ∧
        e.visit.time.seconds ≤ x.visit.time.seconds + s.accessTtl.seconds ∧
        ∃ u, x.before.users.get? id = some u ∧ u.role = .superadmin := by
  have he : e ∈ (Setup.inMemory P s).history st vs := by simp [h]
  obtain ⟨c, k, hx, hin⟩ := Setup.history_inPanel hk he hn hp
  obtain ⟨hpath, caller, hcaller, hrole⟩ := hx.admits.superadmin hin
  obtain ⟨t, claims, hb, hv, hclaims⟩ := Caller.of_headers hcaller
  -- The token was given in an earlier exchange, to a user as it was stored then.
  obtain ⟨x, hxp, hg⟩ := ho past e future h t claims ⟨hb, hv⟩
  have hxm : x ∈ (Setup.inMemory P s).history st vs := by simp [h, hxp]
  have hxv : x.visit ∈ vs := by
    rw [← Setup.map_visit (Setup.inMemory P s) st vs]
    exact List.mem_map_of_mem hxm
  obtain ⟨u, rfl, hu⟩ := Setup.history_gives hk hxm hg
  obtain ⟨hsub, hlate⟩ := verify_issue (hs _ hxv).1 (hs _ hxv).2 hv
  obtain rfl := Option.some.inj ((Caller.ofClaims?_subject hsub).symm.trans hclaims)
  have hsuper : u.role = .superadmin := hrole
  have hid : Uuid.ofPadded? claims.subject.id = some u.id := by
    rw [hsub]
    exact Uuid.ofPadded?_text u.id
  refine ⟨hpath, _, claims, u.id, ⟨hb, hv⟩, hid, x, hxp, Setup.time_le hc h hxp, hlate, u, ?_, hsuper⟩
  rcases hu with hu | hu
  · exact hu
  · rw [hsuper] at hu
    cases hu

end Histories

def root : User :=
  .new (.ofNat 7) ⟨"Root"⟩ ⟨"root@b.co"⟩ (Password.Clear.hash .legible ⟨"Violet-77".toList⟩ none [])
    .superadmin 0

def rootOnly : State Store := ⟨Keyed.put [] root.id root, []⟩

def rootSignsIn : Visit where
  request := ⟨.post, "/auth/login", [("content-type", Bytes.ofText "application/json")],
    Bytes.ofText "\x7b\"email\":\"root@b.co\",\"password\":\"Violet-77\"\x7d", none⟩
  draws := ⟨.ofNat 1, [], ⟨""⟩⟩
  time := 1000

/-- The token that root is given. -/
def rootToken : String := Settings.usual.keys.issue .legible .access root.subject 1000

def rootLooks : Visit where
  request := ⟨.get, "/superadmin/users",
    [("authorization", ("Bearer".toList ++ ' ' :: rootToken.toList).map Bytes.ascii)], [], none⟩
  draws := ⟨.ofNat 2, [], ⟨""⟩⟩
  time := 2000

def rootSigned : Exchange Store := (Setup.inMemory .legible .usual).exchange rootOnly rootSignsIn

def rootLooked : Exchange Store := (Setup.inMemory .legible .usual).exchange rootSigned.after rootLooks

theorem rootSigned_gives : rootSigned.Gives rootToken := by rfl

theorem rootLooks_bears : bearerToken? rootLooks.request.headers = some rootToken := by
  have hh : Http.Headers.text? rootLooks.request.headers "authorization" =
      some ("Bearer".toList ++ ' ' :: rootToken.toList) := text?_issued (by decide +kernel)
  exact bearerToken?_issued (by decide +kernel) hh

theorem rootLooked_listsUsers : rootLooked.ListsUsers := by
  have hc : Caller.ofHeaders .legible Settings.usual.keys rootLooks.request.headers rootLooks.time =
      .ok ⟨root.id, root.email.text, root.role⟩ :=
    Caller.ofHeaders_issued rootLooks_bears (by decide) (by decide) (by decide) (by decide)
  have ht : Resource.ofTarget? rootLooks.request.target = some (.panel .users) := by decide +kernel
  have hr := Setup.respond_panel (w := .inMemory .legible .usual) (d := rootLooks.draws)
    (c := .listUsers) rootSigned.after ht hc rfl rfl rfl
  have hl (users : Store) : (Setup.inMemory .legible .usual).result rootLooks.draws rootLooks.time users
      .listUsers = (.ok (.users users.list), users) := rfl
  refine ⟨.array (rootSigned.after.users.list.map User.value), ?_⟩
  rw [rootLooked, Setup.exchange, hr, hl]
  rfl

theorem root_history : (Setup.inMemory .legible .usual).history rootOnly [rootSignsIn, rootLooks] =
    [rootSigned] ++ rootLooked :: [] := rfl

theorem root_ownTokens :
    OwnTokens .legible .usual ((Setup.inMemory .legible .usual).history rootOnly [rootSignsIn, rootLooks]) := by
  intro past e future h t c hb
  rw [root_history, List.singleton_append] at h
  rcases past with _ | ⟨x, _ | ⟨y, past⟩⟩
  · obtain ⟨rfl, _⟩ := List.cons.inj h
    have hn : bearerToken? rootSigned.visit.request.headers = none := by decide +kernel
    cases hn.symm.trans hb.1
  · obtain ⟨rfl, ht⟩ := List.cons.inj h
    obtain ⟨rfl, _⟩ := List.cons.inj ht
    obtain rfl := Option.some.inj (rootLooks_bears.symm.trans hb.1)
    exact ⟨rootSigned, List.mem_singleton_self _, rootSigned_gives⟩
  · simp at h

/-- Root may look at the users, and was a superadmin a second before. -/
theorem root_privileged :
    (∃ path, Http.segments rootLooked.visit.request.target = "" :: "superadmin" :: path) ∧
    ∃ t c id, rootLooked.Bears .legible .usual t c ∧ Uuid.ofPadded? c.subject.id = some id ∧
      ∃ x ∈ [rootSigned], x.visit.time ≤ rootLooked.visit.time ∧
        rootLooked.visit.time.seconds ≤ x.visit.time.seconds + Settings.usual.accessTtl.seconds ∧
        ∃ u, x.before.users.get? id = some u ∧ u.role = .superadmin := by
  have hk : rootOnly.users.Kept := Store.Kept.nil.put root
  have hs : ∀ v ∈ [rootSignsIn, rootLooks], IsSecond v.time.seconds ∧
      IsSecond (v.time.seconds + Settings.usual.accessTtl.seconds) := by decide
  have hn : rootLooked.DrawsFresh := by rfl
  have hc : [rootSignsIn, rootLooks].Pairwise fun v v' => v.time ≤ v'.time := by decide
  exact privileged_by_superadmin hk hc hs root_ownTokens root_history hn
    (.inr (.inr rootLooked_listsUsers))

end Storefront.Account
