import GalaxiaAin.Gateway.Coverage
import GalaxiaAin.Library.Machine

/-! The tokens of setCSRFToken and csrfProtection, between the application and one browser. The
browser keeps the cookie of the last answer it got, and sends it until its maximal age; requests
and answers may overtake each other or get lost. -/
namespace GalaxiaAin.Gateway.CsrfTokens
open GalaxiaAin.Library

/-- The age of the cookie, in milliseconds. -/
def maxAge : Nat := 3600000

structure Cookie where
  token : Text
  expires : Nat

/-- The token of an answer: that of the request, or a new one. -/
def setCSRFToken (generated : Text) (http : HttpRequest) : Text := (present http.csrfCookie).getD generated

def safeMethod (http : HttpRequest) : Bool := [units "GET", units "HEAD", units "OPTIONS"].contains http.method

structure World where
  now : Nat
  jar : Option Cookie
  requests : List HttpRequest
  /-- The tokens of the answers in flight. -/
  answers : List Text

/-- The cookie that the browser sends now. -/
def World.cookie (w : World) : Option Text := (w.jar.filter fun c => decide (w.now < c.expires)).map (·.token)

inductive Event where
  | elapsed (time : Nat)
  | sent (http : HttpRequest)
  | served (http : HttpRequest) (generated : Text)
  | received (token : Text)
  | lost

/-- Whatever a page puts in the header of a request, the browser adds the cookie. -/
inductive Step : Machine World Event
  | elapsed (w : World) (time : Nat) : Step w (.elapsed time) { w with now := w.now + time }
  | sent (w : World) (http : HttpRequest) : Step w (.sent { http with csrfCookie := w.cookie })
      { w with requests := w.requests ++ [{ http with csrfCookie := w.cookie }] }
  | served {w : World} {pre post : List HttpRequest} {http : HttpRequest} (hrequests : w.requests = pre ++ http :: post)
      (generated : Text) : Step w (.served http generated)
      { w with requests := pre ++ post, answers := w.answers ++ [setCSRFToken generated http] }
  | received {w : World} {pre post : List Text} {token : Text} (hanswers : w.answers = pre ++ token :: post) :
      Step w (.received token) { w with answers := pre ++ post, jar := some ⟨token, w.now + maxAge⟩ }
  | lostRequest {w : World} {pre post : List HttpRequest} {http : HttpRequest} (hrequests : w.requests = pre ++ http :: post) :
      Step w .lost { w with requests := pre ++ post }
  | lostAnswer {w : World} {pre post : List Text} {token : Text} (hanswers : w.answers = pre ++ token :: post) :
      Step w .lost { w with answers := pre ++ post }

def newBrowser : World := ⟨0, none, [], []⟩

theorem csrfValid_iff {http : HttpRequest} : csrfValid http = true ↔
    safeMethod http = true ∨ ∃ token, token ≠ [] ∧ http.csrfToken = some token ∧ http.csrfCookie = some token := by
  rw [csrfValid, Bool.or_eq_true]
  apply or_congr Iff.rfl
  cases http.csrfToken with
  | none => simp [present]
  | some token =>
    cases http.csrfCookie with
    | none => simp [present]
    | some cookie =>
      simp only [present, Option.isSome_filter, Bool.and_eq_true, bne_iff_ne, Option.any_some, beq_iff_eq, Option.some.injEq]
      constructor
      · rintro ⟨⟨hne, -⟩, hsame⟩
        exact ⟨token, hne, rfl, hsame.symm⟩
      · rintro ⟨_, hne, rfl, rfl⟩
        exact ⟨⟨hne, hne⟩, rfl⟩

theorem cookie_eq_some {w : World} {token : Text} (h : w.cookie = some token) : ∃ c, w.jar = some c ∧ c.token = token := by
  obtain ⟨c, hc, rfl⟩ := Option.map_eq_some_iff.mp h
  exact ⟨c, (Option.filter_eq_some_iff.mp hc).1, rfl⟩

/-! ### Where a token comes from -/

/-- The application drew the token for a request without a cookie. -/
def Drawn (events : List Event) (token : Text) : Prop :=
  ∃ http, present http.csrfCookie = none ∧ Event.served http token ∈ events

/-- The tokens in flight and in the browser come from the application. -/
structure Traced (events : List Event) (w : World) : Prop where
  answers : ∀ token ∈ w.answers, Drawn events token
  jar : ∀ c, w.jar = some c → Drawn events c.token ∧ .received c.token ∈ events
  requests : ∀ http ∈ w.requests, ∀ token, http.csrfCookie = some token → Drawn events token ∧ .received token ∈ events

theorem Drawn.append {events more : List Event} {token : Text} (h : Drawn events token) : Drawn (events ++ more) token := by
  obtain ⟨http, hnone, hserved⟩ := h
  exact ⟨http, hnone, List.mem_append_left _ hserved⟩

theorem Traced.append {events more : List Event} {w : World} (h : Traced events w) : Traced (events ++ more) w where
  answers token htoken := (h.answers token htoken).append
  jar c hc := ⟨(h.jar c hc).1.append, List.mem_append_left _ (h.jar c hc).2⟩
  requests http hhttp token htoken :=
    ⟨(h.requests http hhttp token htoken).1.append, List.mem_append_left _ (h.requests http hhttp token htoken).2⟩

theorem drawn_answer {events : List Event} {w : World} (h : Traced events w) {http : HttpRequest} (hhttp : http ∈ w.requests)
    (generated : Text) : Drawn (events ++ [.served http generated]) (setCSRFToken generated http) := by
  cases hcookie : present http.csrfCookie with
  | none =>
    rw [setCSRFToken, hcookie]
    exact ⟨http, hcookie, List.mem_append_right _ (List.mem_singleton.mpr rfl)⟩
  | some token =>
    rw [setCSRFToken, hcookie]
    exact (h.requests http hhttp token (Option.filter_eq_some_iff.mp hcookie).1).1.append

theorem Traced.step {events : List Event} {w v : World} {e : Event} (h : Traced events w) (hstep : Step w e v) :
    Traced (events ++ [e]) v := by
  have hkept : Traced (events ++ [e]) w := h.append
  cases hstep with
  | elapsed time => exact ⟨hkept.answers, hkept.jar, hkept.requests⟩
  | sent http =>
    refine ⟨hkept.answers, hkept.jar, fun other hother token htoken => ?_⟩
    rcases List.mem_append.mp hother with hother | hother
    · exact hkept.requests other hother token htoken
    · rw [List.mem_singleton.mp hother] at htoken
      obtain ⟨c, hc, rfl⟩ := cookie_eq_some htoken
      exact hkept.jar c hc
  | served hrequests generated =>
    refine ⟨fun token htoken => ?_, hkept.jar, fun other hother => hkept.requests other (mem_ended hrequests hother)⟩
    rcases List.mem_append.mp htoken with htoken | htoken
    · exact hkept.answers token htoken
    · rw [List.mem_singleton.mp htoken]
      exact drawn_answer h (mem_taken hrequests) generated
  | received hanswers =>
    refine ⟨fun token htoken => hkept.answers token (mem_ended hanswers htoken), fun c hc => ?_, hkept.requests⟩
    obtain rfl := Option.some.inj hc
    exact ⟨hkept.answers _ (mem_taken hanswers), List.mem_append_right _ (List.mem_singleton.mpr rfl)⟩
  | lostRequest hrequests =>
    exact ⟨hkept.answers, hkept.jar, fun other hother => hkept.requests other (mem_ended hrequests hother)⟩
  | lostAnswer hanswers =>
    exact ⟨fun token htoken => hkept.answers token (mem_ended hanswers htoken), hkept.jar, hkept.requests⟩

theorem traced_run {events : List Event} {w : World} (hrun : Machine.Run Step newBrowser events w) : Traced events w := by
  have hstart : Traced [] newBrowser :=
    ⟨fun _ h => absurd h List.not_mem_nil, fun _ h => absurd h (Option.some_ne_none _).symm, fun _ h => absurd h List.not_mem_nil⟩
  exact hrun.history (fun _ _ _ _ h hs => h.step hs) hstart

/-- A request that is served was in flight. -/
theorem Step.serves {w v : World} {http : HttpRequest} {generated : Text} (h : Step w (.served http generated) v) :
    http ∈ w.requests := by
  cases h with
  | served hrequests => exact mem_taken hrequests

/-- Whatever the pages of a browser send: a request that changes something passes only with a
token that the application drew for this browser and that the browser got. -/
theorem accepted_with_own_token {events before after : List Event} {w : World} {http : HttpRequest} {generated : Text}
    (hrun : Machine.Run Step newBrowser events w) (hserved : events = before ++ .served http generated :: after)
    (hchanging : safeMethod http = false) (hvalid : csrfValid http = true) :
    ∃ token, http.csrfToken = some token ∧ http.csrfCookie = some token ∧ Drawn before token ∧ .received token ∈ before := by
  rw [hserved] at hrun
  obtain ⟨s, hbefore, hrest⟩ := hrun.split
  cases hrest with
  | cons hstep _ =>
    obtain hsafe | ⟨token, -, htoken, hcookie⟩ := csrfValid_iff.mp hvalid
    · rw [hchanging] at hsafe
      cases hsafe
    · obtain ⟨hdrawn, hreceived⟩ := (traced_run hbefore).requests http hstep.serves token hcookie
      exact ⟨token, htoken, hcookie, hdrawn, hreceived⟩

def page : HttpRequest := { plainRequest with method := units "GET", csrfToken := none, csrfCookie := none }

def form (csrfToken csrfCookie : Text) : HttpRequest :=
  { plainRequest with csrfToken := some csrfToken, csrfCookie := some csrfCookie }

/-- The browser after its first page. -/
def visited : World := ⟨0, some ⟨units "t1", maxAge⟩, [], []⟩

theorem visited_run :
    Machine.Run Step newBrowser [.sent page, .served page (units "t1"), .received (units "t1")] visited :=
  .cons (.sent newBrowser page) (.cons (@Step.served _ [] [] page rfl (units "t1"))
    (.cons (@Step.received _ [] [] (units "t1") rfl) (.nil visited)))

/-- The browser after a form with the token of the page, too. -/
def submitted : World := ⟨0, some ⟨units "t1", maxAge⟩, [], [units "t1"]⟩

theorem submitted_run : Machine.Run Step visited
    [.sent (form (units "t1") (units "t1")), .served (form (units "t1") (units "t1")) (units "t2")] submitted :=
  .cons (.sent visited (form (units "t1") (units "t1")))
    (.cons (@Step.served _ [] [] (form (units "t1") (units "t1")) rfl (units "t2")) (.nil submitted))

theorem accepted_with_own_token_form : ∃ token, (form (units "t1") (units "t1")).csrfToken = some token ∧
    (form (units "t1") (units "t1")).csrfCookie = some token ∧
    Drawn [.sent page, .served page (units "t1"), .received (units "t1"), .sent (form (units "t1") (units "t1"))] token ∧
    .received token ∈ [Event.sent page, .served page (units "t1"), .received (units "t1"),
      .sent (form (units "t1") (units "t1"))] :=
  accepted_with_own_token (visited_run.append submitted_run) rfl (by decide) (by decide)

/-! ### When a token stays -/

/-- The browser has the token, and so has everything in flight. -/
structure Settled (token : Text) (w : World) : Prop where
  jar : ∃ expires, w.jar = some ⟨token, expires⟩
  requests : ∀ http ∈ w.requests, http.csrfCookie = some token
  answers : ∀ t ∈ w.answers, t = token

/-- Requests are sent before the cookie is too old. -/
def InTime (w : World) : Event → Prop
  | .sent _ => ∃ c, w.jar = some c ∧ w.now < c.expires
  | _ => True

theorem Settled.step {token : Text} (hne : token ≠ []) {w v : World} {e : Event} (h : Settled token w) (hintime : InTime w e)
    (hstep : Step w e v) : Settled token v := by
  cases hstep with
  | elapsed time => exact ⟨h.jar, h.requests, h.answers⟩
  | sent http =>
    refine ⟨h.jar, fun other hother => ?_, h.answers⟩
    rcases List.mem_append.mp hother with hother | hother
    · exact h.requests other hother
    · rw [List.mem_singleton.mp hother]
      obtain ⟨c, hc, hfresh⟩ := hintime
      obtain ⟨expires, hjar⟩ := h.jar
      obtain rfl := Option.some.inj (hc.symm.trans hjar)
      simp [World.cookie, hjar, hfresh]
  | served hrequests generated =>
    refine ⟨h.jar, fun other hother => h.requests other (mem_ended hrequests hother), fun t ht => ?_⟩
    rcases List.mem_append.mp ht with ht | ht
    · exact h.answers t ht
    · have hpresent : present (some token) = some token := by
        rw [present, Option.filter_some, if_pos (bne_iff_ne.mpr hne)]
      rw [List.mem_singleton.mp ht, setCSRFToken, h.requests _ (mem_taken hrequests), hpresent]
      rfl
  | received hanswers =>
    refine ⟨⟨w.now + maxAge, ?_⟩, h.requests, fun t ht => h.answers t (mem_ended hanswers ht)⟩
    rw [h.answers _ (mem_taken hanswers)]
  | lostRequest hrequests => exact ⟨h.jar, fun other hother => h.requests other (mem_ended hrequests hother), h.answers⟩
  | lostAnswer hanswers => exact ⟨h.jar, h.requests, fun t ht => h.answers t (mem_ended hanswers ht)⟩

/-- Two pages are opened at once, and the form of the first is refused. -/
example : Machine.Run Step newBrowser [.sent page, .sent page, .served page (units "t1"), .served page (units "t2"),
      .received (units "t1"), .received (units "t2"), .sent (form (units "t1") (units "t2"))]
      ⟨0, some ⟨units "t2", maxAge⟩, [form (units "t1") (units "t2")], []⟩ ∧
    csrfValid (form (units "t1") (units "t2")) = false := by
  have hopened : Machine.Run Step newBrowser [.sent page, .sent page, .served page (units "t1"), .served page (units "t2"),
      .received (units "t1"), .received (units "t2")] ⟨0, some ⟨units "t2", maxAge⟩, [], []⟩ :=
    .cons (.sent newBrowser page) (.cons (.sent _ page) (.cons (@Step.served _ [] [page] page rfl (units "t1"))
      (.cons (@Step.served _ [] [] page rfl (units "t2")) (.cons (@Step.received _ [] [units "t2"] (units "t1") rfl)
        (.cons (@Step.received _ [] [] (units "t2") rfl) (.nil _))))))
  exact ⟨hopened.snoc (.sent _ (form (units "t1") (units "t2"))), by decide⟩

end GalaxiaAin.Gateway.CsrfTokens
