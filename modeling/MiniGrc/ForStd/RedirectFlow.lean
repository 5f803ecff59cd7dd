import Mathlib.Data.List.Nodup
import Mathlib.Logic.Function.Basic
import MiniGrc.ForStd.Run

/-!
# Redirect flows

The authorization-code flow between browsers, a client and a provider, symbolically. A
browser begins a flow at the client, which draws a state and possibly a nonce, keeps them in
the browser's cookies and sends the browser to the provider with them. The provider lets
whoever sits at the browser consent, and sends the browser back to the client's callback
with a code and the state; the client exchanges the code for the provider's grant, which
names the nonce of the request that it answers.

There is one adversary, who runs flows of his own, makes up texts, sends any browser to the
provider or to the callback, and gets hold of every code. What he does not get hold of are
the secrets that the client draws for other browsers.

## Key results

- `granted_of_nonce`: a client that checks the nonce accepts in a browser only what was
  granted in that browser, and from the adversary what was granted to him, or on a request
  that he has made
- `own_code_of_nonce`: the code of a flow is accepted in the browser that has begun it only
- `granted_of_state`: a client that checks the state only, as long as no state leaks
-/

namespace RedirectFlow

/-! ## Secrets -/

/-- The secrets that have been drawn, each for a browser or for the adversary (`none`), and
    the texts that the adversary has made up. A secret is drawn once, and is none of these. -/
structure Secrets (β : Type) where
  drawn : List (Option β × String)
  madeUp : List String
  nodup : (drawn.map Prod.snd ++ madeUp).Nodup

namespace Secrets

variable {β : Type} (s : Secrets β) {p q : Option β} {b : β} {x : String}

/-- Nothing has been drawn. -/
def empty : Secrets β := ⟨[], [], List.nodup_nil⟩

/-- The text has come up before. -/
def Used (x : String) : Prop := x ∈ s.drawn.map Prod.snd ++ s.madeUp

instance : Decidable (s.Used x) := inferInstanceAs (Decidable (_ ∈ _))

/-- The adversary knows the text. -/
def Known [DecidableEq β] (x : String) : Prop := x ∈ s.madeUp ∨ (none, x) ∈ s.drawn

instance [DecidableEq β] : Decidable (s.Known x) := inferInstanceAs (Decidable (_ ∨ _))

/-- Draw a secret. -/
def draw (p : Option β) (x : String) : Option (Secrets β) :=
  if h : s.Used x then none
  else some ⟨(p, x) :: s.drawn, s.madeUp, List.nodup_cons.2 ⟨h, s.nodup⟩⟩

/-- The adversary makes up a text. -/
def makeUp (x : String) : Option (Secrets β) :=
  if h : s.Used x then none
  else some ⟨s.drawn, x :: s.madeUp, List.nodup_middle.2 (List.nodup_cons.2 ⟨h, s.nodup⟩)⟩

variable {s} {s' : Secrets β}

/-- A secret is drawn for one party. -/
theorem owner_unique (hp : (p, x) ∈ s.drawn) (hq : (q, x) ∈ s.drawn) : p = q := by
  have hnodup : (s.drawn.map Prod.snd).Nodup := (List.nodup_append.1 s.nodup).1
  have heq := List.inj_on_of_nodup_map hnodup hp hq rfl
  exact congrArg Prod.fst heq

/-- The adversary does not know what has been drawn for a browser. -/
theorem not_known [DecidableEq β] (h : (some b, x) ∈ s.drawn) : ¬ s.Known x := by
  rintro (hmade | hnone)
  · have hdisjoint := (List.nodup_append.1 s.nodup).2.2
    exact hdisjoint x (List.mem_map.2 ⟨_, h, rfl⟩) x hmade rfl
  · cases owner_unique h hnone

/-- A secret drawn is one of its party's. -/
theorem draw_eq_some (h : s.draw p x = some s') :
    s'.drawn = (p, x) :: s.drawn ∧ s'.madeUp = s.madeUp := by
  unfold draw at h
  split at h
  · cases h
  · cases h
    exact ⟨rfl, rfl⟩

/-- A text made up is known to the adversary. -/
theorem makeUp_eq_some (h : s.makeUp x = some s') :
    s'.drawn = s.drawn ∧ s'.madeUp = x :: s.madeUp := by
  unfold makeUp at h
  split at h
  · cases h
  · cases h
    exact ⟨rfl, rfl⟩

/-- Secrets and made-up texts only become more. -/
structure Le (s s' : Secrets β) : Prop where
  drawn : ∀ y ∈ s.drawn, y ∈ s'.drawn
  madeUp : ∀ y ∈ s.madeUp, y ∈ s'.madeUp

theorem Le.refl (s : Secrets β) : s.Le s := ⟨fun _ h => h, fun _ h => h⟩

theorem Le.trans {s'' : Secrets β} (h : s.Le s') (h' : s'.Le s'') : s.Le s'' :=
  ⟨fun y hy => h'.drawn y (h.drawn y hy), fun y hy => h'.madeUp y (h.madeUp y hy)⟩

/-- A draw forgets nothing. -/
theorem le_draw (h : s.draw p x = some s') : s.Le s' := by
  obtain ⟨hdrawn, hmade⟩ := draw_eq_some h
  exact ⟨fun y hy => by simp [hdrawn, hy], fun y hy => by simpa [hmade] using hy⟩

/-- A text made up forgets nothing. -/
theorem le_makeUp (h : s.makeUp x = some s') : s.Le s' := by
  obtain ⟨hdrawn, hmade⟩ := makeUp_eq_some h
  exact ⟨fun y hy => by simpa [hdrawn] using hy, fun y hy => by simp [hmade, hy]⟩

/-- What is known stays known. -/
theorem Le.known [DecidableEq β] (h : s.Le s') (hx : s.Known x) : s'.Known x :=
  hx.imp (h.madeUp x) (h.drawn _)

end Secrets

/-! ## The flow -/

/-- The cookies of a flow. -/
structure Cookies where
  state : Option String := none
  nonce : Option String := none
  deriving DecidableEq

/-- An authorization request. -/
structure AuthRequest where
  state : String
  nonce : Option String
  deriving DecidableEq

/-- A code of the provider: where its owner consented, to which request, and what the code is
    exchanged for. -/
structure Grant (β γ : Type) where
  code : String
  party : Option β
  request : AuthRequest
  content : γ

/-- A client: whether it draws a nonce, where a grant names the nonce, and what the callback
    makes of the cookies, the code, the state and the grant of the code, given what else it
    finds: the time, its settings, the network. -/
structure Client (ε γ α : Type) where
  drawsNonce : Bool
  nonceOf : γ → Option String
  callback : ε → Cookies → String → String → Option γ → Option α

/-- What the client has accepted: where (`none` for the adversary), with which code, what else
    the callback has found, and what it has made of it all. -/
structure Acceptance (β ε α : Type) where
  party : Option β
  code : String
  env : ε
  result : α

/-- The browsers, the adversary and the provider; and what the client has accepted. -/
structure World (β ε γ α : Type) where
  secrets : Secrets β
  cookies : β → Cookies
  /-- the authorization requests that the browsers have been sent to -/
  requests : List (β × AuthRequest)
  grants : List (Grant β γ)
  accepted : List (Acceptance β ε α)

/-- What happens next. -/
inductive Label (β ε γ : Type)
  /-- the browser begins a flow -/
  | start (b : β) (request : AuthRequest)
  | startAdversary (request : AuthRequest)
  | makeUp (text : String)
  /-- the adversary sends the browser to the provider -/
  | lure (b : β) (request : AuthRequest)
  /-- whoever sits at the browser consents -/
  | grant (b : β) (request : AuthRequest) (code : String) (content : γ)
  | grantAdversary (request : AuthRequest) (code : String) (content : γ)
  /-- the browser is sent to the callback, by the provider or by the adversary -/
  | callback (env : ε) (b : β) (code state : String)
  | callbackAdversary (env : ε) (cookies : Cookies) (code state : String)
  /-- cookies expire, or a response deletes them -/
  | forget (b : β) (state nonce : Bool)

variable {β ε γ α : Type} [DecidableEq β]

namespace World

/-- The start: no flow is under way. -/
def initial : World β ε γ α := ⟨.empty, fun _ => {}, [], [], []⟩

variable (w : World β ε γ α)

/-- Draw the secrets of a request. -/
def draw (p : Option β) (request : AuthRequest) : Option (Secrets β) :=
  (w.secrets.draw p request.state).bind fun secrets =>
    match request.nonce with
    | none => some secrets
    | some nonce => secrets.draw p nonce

/-- The adversary can make the request: he knows its nonce. -/
def CanMake (request : AuthRequest) : Prop :=
  match request.nonce with
  | none => True
  | some nonce => w.secrets.Known nonce

instance (request : AuthRequest) : Decidable (w.CanMake request) :=
  match h : request.nonce with
  | none => isTrue (by simp [CanMake, h])
  | some nonce => decidable_of_iff (w.secrets.Known nonce) (by simp [CanMake, h])

/-- What the provider gives for a code. -/
def exchange (code : String) : Option γ :=
  (w.grants.find? fun g => g.code = code).map Grant.content

end World

/-- One step. -/
def step (client : Client ε γ α) (w : World β ε γ α) : Label β ε γ → Option (World β ε γ α)
  | .start b request =>
    if request.nonce.isSome = client.drawsNonce then
      (w.draw (some b) request).map fun secrets => { w with
        secrets := secrets
        cookies := Function.update w.cookies b ⟨some request.state, request.nonce⟩
        requests := (b, request) :: w.requests }
    else none
  | .startAdversary request =>
    if request.nonce.isSome = client.drawsNonce then
      (w.draw none request).map fun secrets => { w with secrets := secrets }
    else none
  | .makeUp text => (w.secrets.makeUp text).map fun secrets => { w with secrets := secrets }
  | .lure b request =>
    if w.CanMake request then some { w with requests := (b, request) :: w.requests } else none
  | .grant b request code content =>
    if (b, request) ∈ w.requests ∧ client.nonceOf content = request.nonce ∧
        (w.exchange code).isNone then
      some { w with grants := ⟨code, some b, request, content⟩ :: w.grants }
    else none
  | .grantAdversary request code content =>
    if w.CanMake request ∧ client.nonceOf content = request.nonce ∧
        (w.exchange code).isNone then
      some { w with grants := ⟨code, none, request, content⟩ :: w.grants }
    else none
  | .callback env b code state =>
    match client.callback env (w.cookies b) code state (w.exchange code) with
    | none => some w
    | some a => some { w with accepted := ⟨some b, code, env, a⟩ :: w.accepted }
  | .callbackAdversary env cookies code state =>
    if w.CanMake ⟨state, cookies.nonce⟩ then
      match client.callback env cookies code state (w.exchange code) with
      | none => some w
      | some a => some { w with accepted := ⟨none, code, env, a⟩ :: w.accepted }
    else none
  | .forget b state nonce =>
    some { w with cookies := Function.update w.cookies b {
      state := if state then none else (w.cookies b).state
      nonce := if nonce then none else (w.cookies b).nonce } }

/-! ## Safety -/

section Safety

variable {client : Client ε γ α} {w w' : World β ε γ α} {l : Label β ε γ}

/-- What is true of the secrets and of who uses them. -/
structure Inv (client : Client ε γ α) (w : World β ε γ α) : Prop where
  /-- the cookies of a browser hold what was drawn for it -/
  state : ∀ b x, (w.cookies b).state = some x → (some b, x) ∈ w.secrets.drawn
  nonce : ∀ b x, (w.cookies b).nonce = some x → (some b, x) ∈ w.secrets.drawn
  /-- a browser is sent to the provider with a nonce of its own or of the adversary -/
  requests : ∀ b request x, (b, request) ∈ w.requests → request.nonce = some x →
    (some b, x) ∈ w.secrets.drawn ∨ w.secrets.Known x
  grants : ∀ g ∈ w.grants, ∀ x, g.request.nonce = some x →
    match g.party with
    | some b => (b, g.request) ∈ w.requests
    | none => w.secrets.Known x
  /-- a grant names the nonce of the request that it answers -/
  content : ∀ g ∈ w.grants, client.nonceOf g.content = g.request.nonce
  codes : (w.grants.map Grant.code).Nodup

/-- A flow that begins: its secrets are in the cookies of the browser, which is sent to the
    provider with its request. -/
theorem cookies_of_start {b : β} {request : AuthRequest}
    (h : step client w (.start b request) = some w') :
    w'.cookies b = ⟨some request.state, request.nonce⟩ ∧ (b, request) ∈ w'.requests := by
  simp only [step] at h
  split at h
  · obtain ⟨secrets, -, rfl⟩ := Option.map_eq_some_iff.1 h
    exact ⟨Function.update_self .., List.mem_cons_self⟩
  · cases h

omit [DecidableEq β] in
/-- The secrets of a request are drawn for its party. -/
theorem draw_le {p : Option β} {request : AuthRequest} {secrets : Secrets β}
    (h : w.draw p request = some secrets) :
    w.secrets.Le secrets ∧ (p, request.state) ∈ secrets.drawn ∧
      ∀ nonce, request.nonce = some nonce → (p, nonce) ∈ secrets.drawn := by
  unfold World.draw at h
  obtain ⟨first, hfirst, h⟩ := Option.bind_eq_some_iff.1 h
  have hstate : (p, request.state) ∈ first.drawn := by
    simp [(Secrets.draw_eq_some hfirst).1]
  -- The state is drawn first, then the nonce, if there is one.
  cases hnonce : request.nonce with
  | none =>
    rw [hnonce] at h
    cases h
    exact ⟨Secrets.le_draw hfirst, hstate, fun nonce hsome => by cases hsome⟩
  | some nonce =>
    rw [hnonce] at h
    have hle := Secrets.le_draw h
    refine ⟨(Secrets.le_draw hfirst).trans hle, hle.drawn _ hstate, fun nonce' hsome => ?_⟩
    cases hsome
    simp [(Secrets.draw_eq_some h).1]

/-- At the start nothing is drawn. -/
theorem inv_initial : Inv client (World.initial : World β ε γ α) where
  state b x h := by cases h
  nonce b x h := by cases h
  requests b request x h := by cases h
  grants g h := by cases h
  content g h := by cases h
  codes := List.nodup_nil

/-- More secrets, and nothing else. -/
theorem Inv.secrets (h : Inv client w) {secrets : Secrets β} (hle : w.secrets.Le secrets) :
    Inv client { w with secrets := secrets } where
  state b x hx := hle.drawn _ (h.state b x hx)
  nonce b x hx := hle.drawn _ (h.nonce b x hx)
  requests b request x hmem hx := (h.requests b request x hmem hx).imp (hle.drawn _) hle.known
  grants g hg x hx := by
    have hgrant := h.grants g hg x hx
    cases hparty : g.party with
    | some b =>
      rw [hparty] at hgrant
      exact hgrant
    | none =>
      rw [hparty] at hgrant
      exact hle.known hgrant
  content := h.content
  codes := h.codes

/-- The cookies of a browser are replaced by what was drawn for it. -/
theorem Inv.setCookies (h : Inv client w) (b : β) (cookies : Cookies)
    (hstate : ∀ x, cookies.state = some x → (some b, x) ∈ w.secrets.drawn)
    (hnonce : ∀ x, cookies.nonce = some x → (some b, x) ∈ w.secrets.drawn) :
    Inv client { w with cookies := Function.update w.cookies b cookies } where
  state a x hx := by
    simp only [Function.update_apply] at hx
    -- The browser's own cookies are the new ones.
    split at hx
    · next heq => exact heq ▸ hstate x hx
    · exact h.state a x hx
  nonce a x hx := by
    simp only [Function.update_apply] at hx
    split at hx
    · next heq => exact heq ▸ hnonce x hx
    · exact h.nonce a x hx
  requests := h.requests
  grants := h.grants
  content := h.content
  codes := h.codes

/-- A browser is sent to the provider. -/
theorem Inv.request (h : Inv client w) {b : β} {request : AuthRequest}
    (hnonce : ∀ x, request.nonce = some x →
      (some b, x) ∈ w.secrets.drawn ∨ w.secrets.Known x) :
    Inv client { w with requests := (b, request) :: w.requests } where
  state := h.state
  nonce := h.nonce
  requests a request' x hmem hx := by
    -- The new request, or one that was made before.
    rcases List.mem_cons.1 hmem with heq | hmem
    · cases heq
      exact hnonce x hx
    · exact h.requests a request' x hmem hx
  grants g hg x hx := by
    have hgrant := h.grants g hg x hx
    cases hparty : g.party with
    | some a =>
      rw [hparty] at hgrant
      exact List.mem_cons_of_mem _ hgrant
    | none =>
      rw [hparty] at hgrant
      exact hgrant
  content := h.content
  codes := h.codes

/-- The provider grants a request. -/
theorem Inv.grant (h : Inv client w) {g : Grant β γ}
    (hg : ∀ x, g.request.nonce = some x →
      match g.party with
      | some b => (b, g.request) ∈ w.requests
      | none => w.secrets.Known x)
    (hcontent : client.nonceOf g.content = g.request.nonce)
    (hcode : (w.exchange g.code).isNone) :
    Inv client { w with grants := g :: w.grants } where
  state := h.state
  nonce := h.nonce
  requests := h.requests
  grants g' hmem x hx := by
    rcases List.mem_cons.1 hmem with rfl | hmem
    · exact hg x hx
    · exact h.grants g' hmem x hx
  content g' hmem := by
    rcases List.mem_cons.1 hmem with rfl | hmem
    · exact hcontent
    · exact h.content g' hmem
  codes := by
    refine List.nodup_cons.2 ⟨fun hmem => ?_, h.codes⟩
    obtain ⟨g', hg', hsame⟩ := List.mem_map.1 hmem
    rw [World.exchange, Option.isNone_map, Option.isNone_iff_eq_none, List.find?_eq_none] at hcode
    exact hcode g' hg' (by simpa using hsame)

/-- The callback has accepted something. -/
theorem Inv.accept (h : Inv client w) (x : Acceptance β ε α) :
    Inv client { w with accepted := x :: w.accepted } :=
  ⟨h.state, h.nonce, h.requests, h.grants, h.content, h.codes⟩

/-- What the adversary can send it knows. -/
theorem known_of_canMake {request : AuthRequest} (h : w.CanMake request) {x : String}
    (hx : request.nonce = some x) : w.secrets.Known x := by
  unfold World.CanMake at h
  rw [hx] at h
  exact h

/-- Every step keeps the invariant. -/
theorem Inv.step (h : Inv client w) (hs : step client w l = some w') : Inv client w' := by
  -- A case for each label; only `start` draws for a browser.
  cases l with
  | start b request =>
    simp only [RedirectFlow.step] at hs
    split at hs
    · obtain ⟨secrets, hdraw, rfl⟩ := Option.map_eq_some_iff.1 hs
      obtain ⟨hle, hstate, hnonce⟩ := draw_le hdraw
      have hcookies := (h.secrets hle).setCookies b ⟨some request.state, request.nonce⟩
        (fun x hx => by cases hx; exact hstate) hnonce
      exact hcookies.request fun x hx => .inl (hnonce x hx)
    · cases hs
  | startAdversary request =>
    simp only [RedirectFlow.step] at hs
    split at hs
    · obtain ⟨secrets, hdraw, rfl⟩ := Option.map_eq_some_iff.1 hs
      exact h.secrets (draw_le hdraw).1
    · cases hs
  | makeUp text =>
    simp only [RedirectFlow.step] at hs
    obtain ⟨secrets, hmade, rfl⟩ := Option.map_eq_some_iff.1 hs
    exact h.secrets (Secrets.le_makeUp hmade)
  | lure b request =>
    simp only [RedirectFlow.step] at hs
    split at hs
    · next hmake =>
      cases hs
      exact h.request fun x hx => .inr (known_of_canMake hmake hx)
    · cases hs
  | grant b request code content =>
    simp only [RedirectFlow.step] at hs
    split at hs
    · next hmake =>
      cases hs
      exact h.grant (fun x _ => hmake.1) hmake.2.1 hmake.2.2
    · cases hs
  | grantAdversary request code content =>
    simp only [RedirectFlow.step] at hs
    split at hs
    · next hmake =>
      cases hs
      exact h.grant (fun x hx => known_of_canMake hmake.1 hx) hmake.2.1 hmake.2.2
    · cases hs
  | callback env b code state =>
    simp only [RedirectFlow.step] at hs
    split at hs
    · cases hs
      exact h
    · next a _ =>
      cases hs
      exact h.accept ⟨some b, code, env, a⟩
  | callbackAdversary env cookies code state =>
    simp only [RedirectFlow.step] at hs
    split at hs
    · split at hs
      · cases hs
        exact h
      · next a _ =>
        cases hs
        exact h.accept ⟨none, code, env, a⟩
    · cases hs
  | forget b state nonce =>
    simp only [RedirectFlow.step] at hs
    cases hs
    refine h.setCookies b _ (fun x hx => ?_) fun x hx => ?_
    · cases state with
      | true => cases hx
      | false => exact h.state b x hx
    · cases nonce with
      | true => cases hx
      | false => exact h.nonce b x hx

/-- The invariant holds in every run. -/
theorem inv_of_run {ok : World β ε γ α → Label β ε γ → Prop}
    (h : Run (RedirectFlow.step client) ok World.initial w) : Inv client w :=
  h.invariant inv_initial fun _ _ _ hinv _ hs => hinv.step hs

/-! ## What has been accepted -/

/-- Grants and secrets only become more. -/
theorem le_of_step (hs : step client w l = some w') :
    (∀ g ∈ w.grants, g ∈ w'.grants) ∧ w.secrets.Le w'.secrets := by
  have hrefl : (∀ g ∈ w.grants, g ∈ w.grants) ∧ w.secrets.Le w.secrets :=
    ⟨fun _ hg => hg, Secrets.Le.refl _⟩
  -- Grants and secrets are only ever added.
  cases l with
  | start b request =>
    simp only [step] at hs
    split at hs
    · obtain ⟨secrets, hdraw, rfl⟩ := Option.map_eq_some_iff.1 hs
      exact ⟨fun _ hg => hg, (draw_le hdraw).1⟩
    · cases hs
  | startAdversary request =>
    simp only [step] at hs
    split at hs
    · obtain ⟨secrets, hdraw, rfl⟩ := Option.map_eq_some_iff.1 hs
      exact ⟨fun _ hg => hg, (draw_le hdraw).1⟩
    · cases hs
  | makeUp text =>
    simp only [step] at hs
    obtain ⟨secrets, hmade, rfl⟩ := Option.map_eq_some_iff.1 hs
    exact ⟨fun _ hg => hg, Secrets.le_makeUp hmade⟩
  | lure b request =>
    simp only [step] at hs
    split at hs
    · cases hs
      exact hrefl
    · cases hs
  | grant b request code content =>
    simp only [step] at hs
    split at hs
    · cases hs
      exact ⟨fun _ hg => List.mem_cons_of_mem _ hg, Secrets.Le.refl _⟩
    · cases hs
  | grantAdversary request code content =>
    simp only [step] at hs
    split at hs
    · cases hs
      exact ⟨fun _ hg => List.mem_cons_of_mem _ hg, Secrets.Le.refl _⟩
    · cases hs
  | callback env b code state =>
    simp only [step] at hs
    split at hs <;> cases hs <;> exact hrefl
  | callbackAdversary env cookies code state =>
    simp only [step] at hs
    split at hs
    · split at hs <;> cases hs <;> exact hrefl
    · cases hs
  | forget b state nonce =>
    cases hs
    exact hrefl

/-- What is accepted by a step, the callback of a browser or of the adversary accepts. -/
theorem accepted_of_step (hs : step client w l = some w') {x : Acceptance β ε α}
    (ha : x ∈ w'.accepted) :
    x ∈ w.accepted ∨
      (∃ b state, l = .callback x.env b x.code state ∧ x.party = some b ∧
        client.callback x.env (w.cookies b) x.code state (w.exchange x.code) =
          some x.result) ∨
      ∃ cookies state, l = .callbackAdversary x.env cookies x.code state ∧ x.party = none ∧
        w.CanMake ⟨state, cookies.nonce⟩ ∧
        client.callback x.env cookies x.code state (w.exchange x.code) = some x.result := by
  -- Only a callback is accepted.
  cases l with
  | start b request =>
    simp only [step] at hs
    split at hs
    · obtain ⟨secrets, _, rfl⟩ := Option.map_eq_some_iff.1 hs
      exact .inl ha
    · cases hs
  | startAdversary request =>
    simp only [step] at hs
    split at hs
    · obtain ⟨secrets, _, rfl⟩ := Option.map_eq_some_iff.1 hs
      exact .inl ha
    · cases hs
  | makeUp text =>
    simp only [step] at hs
    obtain ⟨secrets, _, rfl⟩ := Option.map_eq_some_iff.1 hs
    exact .inl ha
  | lure b request =>
    simp only [step] at hs
    split at hs
    · cases hs
      exact .inl ha
    · cases hs
  | grant b request code' content =>
    simp only [step] at hs
    split at hs
    · cases hs
      exact .inl ha
    · cases hs
  | grantAdversary request code' content =>
    simp only [step] at hs
    split at hs
    · cases hs
      exact .inl ha
    · cases hs
  | callback env b code' state =>
    simp only [step] at hs
    split at hs
    · cases hs
      exact .inl ha
    · next a' haccept =>
      cases hs
      rcases List.mem_cons.1 ha with rfl | ha
      ·         exact .inr (.inl ⟨b, state, rfl, rfl, haccept⟩)
      · exact .inl ha
  | callbackAdversary env cookies code' state =>
    simp only [step] at hs
    split at hs
    · next hmake =>
      split at hs
      · cases hs
        exact .inl ha
      · next a' haccept =>
        cases hs
        rcases List.mem_cons.1 ha with heq | ha
        · cases heq
          exact .inr (.inr ⟨cookies, state, rfl, rfl, hmake, haccept⟩)
        · exact .inl ha
    · cases hs
  | forget b state nonce =>
    cases hs
    exact .inl ha

omit [DecidableEq β] in
/-- The provider gives the content of a grant of the code. -/
theorem exists_of_exchange {code : String} {content : γ} (h : w.exchange code = some content) :
    ∃ g ∈ w.grants, g.code = code ∧ g.content = content := by
  obtain ⟨g, hfind, hcontent⟩ := Option.map_eq_some_iff.1 h
  exact ⟨g, List.mem_of_find?_eq_some hfind, by simpa using List.find?_some hfind, hcontent⟩

/-- What the client has accepted is what its callback makes of a grant with the property `P`. -/
def AcceptedFrom (client : Client ε γ α) (w : World β ε γ α) (P : World β ε γ α → Grant β γ → Prop)
    (x : Acceptance β ε α) : Prop :=
  ∃ g ∈ w.grants, g.code = x.code ∧ P w g ∧
    ∃ cookies state, client.callback x.env cookies x.code state (some g.content) = some x.result

/-- What is accepted from a grant stays so. -/
theorem AcceptedFrom.step {P : World β ε γ α → Grant β γ → Prop} {x : Acceptance β ε α}
    (h : AcceptedFrom client w P x) (hs : step client w l = some w')
    (hP : ∀ g, P w g → w.secrets.Le w'.secrets → P w' g) : AcceptedFrom client w' P x := by
  obtain ⟨g, hg, hcode, hprop, hcallback⟩ := h
  obtain ⟨hgrants, hsecrets⟩ := le_of_step hs
  exact ⟨g, hgrants g hg, hcode, hP g hprop hsecrets, hcallback⟩

/-- The callback accepts only a grant that names the nonce of the cookie. -/
def Client.ChecksNonce (client : Client ε γ α) : Prop :=
  ∀ env cookies code state content a,
    client.callback env cookies code state content = some a →
    ∃ nonce g, cookies.nonce = some nonce ∧ content = some g ∧ client.nonceOf g = some nonce

/-- The callback accepts only the state of the cookie. -/
def Client.ChecksState (client : Client ε γ α) : Prop :=
  ∀ env cookies code state content a,
    client.callback env cookies code state content = some a →
    cookies.state = some state ∧ content.isSome

variable {ok : World β ε γ α → Label β ε γ → Prop}

/-- What a party is to be accepted with, `P`, is so in every state of a run if it is so at each
    callback that accepts, and lasts while more secrets are drawn. -/
theorem acceptedFrom_of_run {P : Option β → World β ε γ α → Grant β γ → Prop}
    (h : Run (step client) ok World.initial w)
    (hkept : ∀ p u v g, P p u g → u.secrets.Le v.secrets → P p v g)
    (hbrowser : ∀ u b env code state content a, Inv client u →
      ok u (.callback env b code state) → u.exchange code = some content →
      client.callback env (u.cookies b) code state (some content) = some a →
      AcceptedFrom client u (P (some b)) ⟨some b, code, env, a⟩)
    (hadversary : ∀ u env cookies code state content a, Inv client u →
      u.CanMake ⟨state, cookies.nonce⟩ → u.exchange code = some content →
      client.callback env cookies code state (some content) = some a →
      AcceptedFrom client u (P none) ⟨none, code, env, a⟩)
    (hrefuses : ∀ env cookies code state, client.callback env cookies code state none = none) :
    ∀ x ∈ w.accepted, AcceptedFrom client w (P x.party) x := by
  -- a callback that accepts has exchanged its code
  have hexchanged : ∀ u env cookies code state a,
      client.callback env cookies code state (World.exchange (β := β) (ε := ε) (α := α) u code) =
        some a → ∃ content, u.exchange code = some content ∧
          client.callback env cookies code state (some content) = some a := by
    intro u env cookies code state a haccepts
    cases hexchange : u.exchange code with
    | none =>
      rw [hexchange, hrefuses] at haccepts
      cases haccepts
    | some content =>
      rw [hexchange] at haccepts
      exact ⟨content, rfl, haccepts⟩
  have hinv : Inv client w ∧ ∀ x ∈ w.accepted, AcceptedFrom client w (P x.party) x := by
    refine h.invariant (P := fun w => Inv client w ∧
      ∀ x ∈ w.accepted, AcceptedFrom client w (P x.party) x)
      ⟨inv_initial, fun x hx => by cases hx⟩ ?_
    rintro u l v ⟨hu, haccepted⟩ hok hs
    refine ⟨hu.step hs, fun x hx => ?_⟩
    have hlast : AcceptedFrom client u (P x.party) x → AcceptedFrom client v (P x.party) x :=
      fun hfrom => hfrom.step hs fun g => hkept x.party u v g
    rcases accepted_of_step hs hx with
      hx | ⟨b, state, rfl, hb, haccepts⟩ | ⟨cookies, state, rfl, hb, hmake, haccepts⟩
    · exact hlast (haccepted x hx)
    · obtain ⟨content, hexchange, haccepts⟩ := hexchanged _ _ _ _ _ _ haccepts
      obtain ⟨_, code, env, a⟩ := x
      obtain rfl := hb
      exact hlast (hbrowser u b env code state content a hu hok hexchange haccepts)
    · obtain ⟨content, hexchange, haccepts⟩ := hexchanged _ _ _ _ _ _ haccepts
      obtain ⟨_, code, env, a⟩ := x
      obtain rfl := hb
      exact hlast (hadversary u env cookies code state content a hu hmake hexchange haccepts)
  exact hinv.2

/-- The owner of the grant consented in the browser, to a request that was begun there. -/
def GrantedIn (b : β) (w : World β ε γ α) (g : Grant β γ) : Prop :=
  g.party = some b ∧ ∃ nonce, g.request.nonce = some nonce ∧ (some b, nonce) ∈ w.secrets.drawn

/-- The owner of the grant is the adversary, or has consented to a request of his. -/
def GrantedToAdversary (w : World β ε γ α) (g : Grant β γ) : Prop :=
  g.party = none ∨ ∃ nonce, g.request.nonce = some nonce ∧ w.secrets.Known nonce

/-- Whose grant it is. -/
def GrantedTo : Option β → World β ε γ α → Grant β γ → Prop
  | some b => GrantedIn b
  | none => GrantedToAdversary

omit [DecidableEq β] in
/-- A client that checks the nonce refuses a code without a grant. -/
theorem Client.ChecksNonce.refuses (h : client.ChecksNonce) (env : ε) (cookies : Cookies)
    (code state : String) : client.callback env cookies code state none = none := by
  refine Option.eq_none_iff_forall_ne_some.2 fun a haccepts => ?_
  obtain ⟨_, _, -, hcontent, -⟩ := h _ _ _ _ _ _ haccepts
  cases hcontent

/-- A client that checks the nonce accepts only what has been granted to whoever comes to the
    callback. -/
theorem granted_of_nonce (hclient : client.ChecksNonce)
    (h : Run (step client) ok World.initial w) :
    ∀ x ∈ w.accepted, AcceptedFrom client w (GrantedTo x.party) x := by
  refine acceptedFrom_of_run h ?_ ?_ ?_ hclient.refuses
  · intro p u v g hgranted hle
    cases p with
    | some b =>
      obtain ⟨hparty, nonce, hnonce, hdrawn⟩ := hgranted
      exact ⟨hparty, nonce, hnonce, hle.drawn _ hdrawn⟩
    | none =>
      rcases hgranted with hparty | ⟨nonce, hnonce, hknown⟩
      · exact .inl hparty
      · exact .inr ⟨nonce, hnonce, hle.known hknown⟩
  · intro u b env code state content a hu _ hexchange haccepts
    obtain ⟨nonce, _, hcookie, hcontent, hnonce⟩ := hclient _ _ _ _ _ _ haccepts
    obtain rfl := Option.some.inj hcontent
    obtain ⟨g, hg, hcode, rfl⟩ := exists_of_exchange hexchange
    have hdrawn := hu.nonce b nonce hcookie
    have hrequest : g.request.nonce = some nonce := by rw [← hu.content g hg, hnonce]
    -- whoever consented knows the nonce, which was drawn for this browser
    have hparty : g.party = some b := by
      have hgrant := hu.grants g hg nonce hrequest
      cases hp : g.party with
      | none =>
        rw [hp] at hgrant
        exact absurd hgrant (Secrets.not_known hdrawn)
      | some b' =>
        rw [hp] at hgrant
        rcases hu.requests b' g.request nonce hgrant hrequest with hown | hknown
        · exact Secrets.owner_unique hown hdrawn
        · exact absurd hknown (Secrets.not_known hdrawn)
    exact ⟨g, hg, hcode, ⟨hparty, nonce, hrequest, hdrawn⟩, u.cookies b, state, haccepts⟩
  · intro u env cookies code state content a hu hmake hexchange haccepts
    obtain ⟨nonce, _, hcookie, hcontent, hnonce⟩ := hclient _ _ _ _ _ _ haccepts
    obtain rfl := Option.some.inj hcontent
    obtain ⟨g, hg, hcode, rfl⟩ := exists_of_exchange hexchange
    have hrequest : g.request.nonce = some nonce := by rw [← hu.content g hg, hnonce]
    exact ⟨g, hg, hcode, .inr ⟨nonce, hrequest, known_of_canMake hmake hcookie⟩, cookies, state,
      haccepts⟩

/-- A code belongs to one grant. -/
theorem Inv.grant_unique (h : Inv client w) {g g' : Grant β γ} (hg : g ∈ w.grants)
    (hg' : g' ∈ w.grants) (hcode : g.code = g'.code) : g = g' :=
  List.inj_on_of_nodup_map h.codes hg hg' hcode

/-- Whatever leaks: the code of a flow that was begun in a browser is accepted in that browser
    only. -/
theorem own_code_of_nonce (hclient : client.ChecksNonce)
    (h : Run (step client) ok World.initial w) {g : Grant β γ} (hg : g ∈ w.grants) {b : β}
    {nonce : String} (hnonce : g.request.nonce = some nonce)
    (hdrawn : (some b, nonce) ∈ w.secrets.drawn) {x : Acceptance β ε α} (hx : x ∈ w.accepted)
    (hcode : x.code = g.code) : x.party = some b := by
  have hinv := inv_of_run h
  obtain ⟨g', hg', hcode', hgranted, -⟩ := granted_of_nonce hclient h x hx
  obtain rfl : g' = g := hinv.grant_unique hg' hg (hcode'.trans hcode)
  cases hparty : x.party with
  | some b' =>
    rw [hparty] at hgranted
    obtain ⟨-, nonce', hnonce', hdrawn'⟩ := hgranted
    obtain rfl := Option.some.inj (hnonce.symm.trans hnonce')
    exact Secrets.owner_unique hdrawn' hdrawn
  | none =>
    rw [hparty] at hgranted
    -- the nonce of the grant would be known to the adversary
    rcases hgranted with hnone | ⟨nonce', hnonce', hknown⟩
    · have hgrant := hinv.grants g' hg nonce hnonce
      rw [hnone] at hgrant
      exact absurd hgrant (Secrets.not_known hdrawn)
    · obtain rfl := Option.some.inj (hnonce.symm.trans hnonce')
      exact absurd hknown (Secrets.not_known hdrawn)

/-- No state leaks: a browser comes to the callback with a code that has been granted there
    and the state of its request, or with a state that the adversary knows. -/
def StatesKept (w : World β ε γ α) : Label β ε γ → Prop
  | .callback _ b code state =>
    (∃ g ∈ w.grants, g.code = code ∧ g.party = some b ∧ g.request.state = state) ∨
      w.secrets.Known state
  | _ => True

instance (w : World β ε γ α) (l : Label β ε γ) : Decidable (StatesKept w l) :=
  match l with
  | .callback _ _ _ _ => inferInstanceAs (Decidable (_ ∨ _))
  | .start _ _ | .startAdversary _ | .makeUp _ | .lure _ _ | .grant _ _ _ _
  | .grantAdversary _ _ _ | .callbackAdversary _ _ _ _ | .forget _ _ _ => isTrue trivial

/-- The owner of the grant consented in the browser, to a request with a state that was drawn
    for it; of the grants of the adversary nothing is said. -/
def GrantedByState : Option β → World β ε γ α → Grant β γ → Prop
  | some b, w, g => g.party = some b ∧ (some b, g.request.state) ∈ w.secrets.drawn
  | none, _, _ => True

/-- A client that checks the state accepts in a browser only what has been granted there, to
    a request that was begun there, as long as no state leaks. -/
theorem granted_of_state (hclient : client.ChecksState)
    (h : Run (step client) StatesKept World.initial w) :
    ∀ x ∈ w.accepted, AcceptedFrom client w (GrantedByState x.party) x := by
  refine acceptedFrom_of_run h ?_ ?_ ?_ ?_
  · intro p u v g hgranted hle
    cases p with
    | some b =>
      obtain ⟨hparty, hdrawn⟩ := hgranted
      exact ⟨hparty, hle.drawn _ hdrawn⟩
    | none => trivial
  · intro u b env code state content a hu hok hexchange haccepts
    obtain ⟨hcookie, -⟩ := hclient _ _ _ _ _ _ haccepts
    have hdrawn := hu.state b state hcookie
    rcases hok with ⟨g, hg, hcode, hparty, hstate⟩ | hknown
    · -- the code is that of the grant
      obtain ⟨g', hg', hcode', rfl⟩ := exists_of_exchange hexchange
      obtain rfl : g' = g := hu.grant_unique hg' hg (hcode'.trans hcode.symm)
      exact ⟨g', hg, hcode, ⟨hparty, hstate ▸ hdrawn⟩, u.cookies b, state, haccepts⟩
    · exact absurd hknown (Secrets.not_known hdrawn)
  · intro u env cookies code state content a _ _ hexchange haccepts
    obtain ⟨g, hg, hcode, rfl⟩ := exists_of_exchange hexchange
    exact ⟨g, hg, hcode, trivial, cookies, state, haccepts⟩
  · intro env cookies code state
    refine Option.eq_none_iff_forall_ne_some.2 fun a haccepts => ?_
    obtain ⟨-, hcontent⟩ := hclient _ _ _ _ _ _ haccepts
    cases hcontent

end Safety

end RedirectFlow
