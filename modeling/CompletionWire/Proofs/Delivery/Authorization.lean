import CompletionWire.Proofs.Delivery.Trace
import CompletionWire.Proofs.Request.Credentials
import CompletionWire.Proofs.Request.Representable

/-!
# What a request is authorized by

The headers of a call are looked up for what its requests show of who asks. The User-Agent is always
theirs. The authorization is theirs unless the model is a URL with credentials: these take the place
of the token, and of no token as well, even where the backend is to be shown none.
-/

namespace CompletionWire

namespace Call

theorem header?_authorization {selected? : Option Backend} {token? : Option Text} {editor : Editor}
    {version : Text} {hs : Headers}
    (h : Request.headers selected? token? editor version = .ok hs) :
    header? "Authorization" hs =
      if Backend.resolve selected? = .ollama then none else token?.map (text "Bearer " ++ ·) := by
  rw [Request.eq_intended_of_headers h, Request.intended]
  split_ifs
  · rfl
  · cases token? with
    | none => rfl
    | some token => rfl

theorem header?_authorization_ne_basic {selected? : Option Backend} {token? : Option Text}
    {editor : Editor} {version : Text} {hs : Headers}
    (h : Request.headers selected? token? editor version = .ok hs) (user password : Text) :
    header? "Authorization" hs ≠ some (Url.basic user password) := by
  rw [header?_authorization h]
  split_ifs
  · nofun
  · cases token? with
    | none => nofun
    | some token =>
      intro heq
      have hstart : text "Be" = text "Ba" := congrArg (List.take 2) (Option.some.inj heq)
      exact absurd hstart (by decide)

/-- A call for a URL that asks for nothing but a prompt's completion can be sent. -/
theorem sendable_plain_url {model : Text} {url : Url}
    (hurl : Url.ofText (Url.ofModel model) = .ok url) (hhost : url.checkHost = .ok ())
    {token? : Option Text} {hs : Headers}
    (hheaders : Request.headers none token? .unknown (text "3.11.2") = .ok hs) :
    ∃ written, ({ plain model (text "hi") with token? } : Call).Sendable url written := by
  obtain ⟨_, written, -, hplain⟩ := sendable_plain
  exact ⟨written, hurl, hhost, hplain.body_eq, hs, hheaders⟩

end Call

namespace Delivery

variable {c : Call} {s : Settings} {script : Script}

/-- Every request of a delivery is the one that was prepared. -/
theorem prepare_of_mem_requests {r : SentRequest} (h : r ∈ (run c s script).requests) :
    ∃ policy, (c.prepare s).value = .ok (r, policy) := by
  cases hprepared : (c.prepare s).value with
  | error m =>
    simp [run, hprepared] at h
  | ok prepared =>
    obtain ⟨request, policy⟩ := prepared
    rw [(run_of_prepared hprepared script).1] at h
    rw [List.eq_of_mem_replicate h]
    exact ⟨policy, rfl⟩

/-- At every attempt a request shows the User-Agent of its call's headers, or none where these have
none. It shows their authorization, or none where these have none, as long as its URL has no host or
is written without credentials; otherwise it shows these instead. -/
theorem run_sends_headers_unless_credentials (c : Call) (s : Settings) (script : Script) :
    ∀ r ∈ (run c s script).requests, ∃ headers,
      Request.headers c.params.backend? c.token? c.editor c.runtimeVersion = .ok headers ∧
      r.userAgent? = Call.header? "User-Agent" headers ∧
      let userinfo := Url.writtenUserinfo (Url.ofModel c.model)
      let (user, password?) := Text.cutAt Host.colon userinfo
      (r.url.host = [] ∨ Url.IsBlank userinfo →
        r.authorization? = Call.header? "Authorization" headers) ∧
      (r.url.host ≠ [] → ¬Url.IsBlank userinfo →
        r.authorization? = some (Url.basic user (password?.getD [])) ∧
          r.authorization? ≠ Call.header? "Authorization" headers) := by
  intro r hr
  obtain ⟨policy, hprepared⟩ := prepare_of_mem_requests hr
  obtain ⟨headers, hheaders, -, hurl, hauthorization, hagent⟩ :=
    Call.exists_headers_of_prepare hprepared
  refine ⟨headers, hheaders, hagent, fun hblank => ?_, fun hhost hcredentials => ?_⟩
  · rw [hauthorization, Url.basicAuthorization?_of_ofText hurl, if_pos hblank, Option.none_or]
  · have hbasic := Url.basicAuthorization?_of_ofText hurl
    rw [if_neg (not_or_intro hhost hcredentials)] at hbasic
    rw [hauthorization, hbasic, Option.some_or]
    exact ⟨rfl, (Call.header?_authorization_ne_basic hheaders _ _).symm⟩

/-- A user who is named in a URL, partly in escapes, is shown at every attempt, without a token. -/
theorem run_sends_headers_unless_credentials_user :
    let c := Call.plain (text "http://us%65r@h/") (text "hi")
    let d := run c (Settings.ofEnvironment [(Settings.attemptsVariable, text "2")]) []
    d.requests.length = 2 ∧
      ∀ r ∈ d.requests, r.authorization? = some (text "Basic dXNlcjo=") := by
  intro c d
  let url : Url :=
    { scheme := text "http", userinfo := text "us%65r", host := text "h", path := text "/" }
  have hurl : Url.ofText (Url.ofModel c.model) = .ok url := by rfl
  have hhost : url.checkHost = .ok () := by rfl
  have hheaders : Request.headers none none .unknown (text "3.11.2") = .ok _ := rfl
  obtain ⟨written, hsendable⟩ := Call.sendable_plain_url hurl hhost hheaders
  let s := Settings.ofEnvironment [(Settings.attemptsVariable, text "2")]
  obtain ⟨request, hrequest, -, hrequests, -⟩ := run_of_sendable hsendable (s := s)
    ⟨by decide, by decide⟩ []
  refine ⟨?_, fun r hr => ?_⟩
  · rw [show d.requests = _ from hrequests, List.length_replicate]
    rfl
  · obtain ⟨headers, -, -, -, hcredentials⟩ := run_sends_headers_unless_credentials c s [] r hr
    rw [show d.requests = _ from hrequests] at hr
    rw [List.eq_of_mem_replicate hr, hrequest] at hcredentials
    rw [List.eq_of_mem_replicate hr, (hcredentials (by decide) (by decide)).1]
    decide

/-- The token is not sent to a URL with credentials, which are sent in its place. -/
theorem run_sends_credentials_for_token :
    let c := { Call.plain (text "http://user:pw@h/") (text "hi") with token? := some (text "tok") }
    let d := run c (Settings.ofEnvironment []) [.answer ⟨200, none, (text "[]").utf8⟩]
    ∃ headers request,
      Request.headers c.params.backend? c.token? c.editor c.runtimeVersion = .ok headers ∧
      Call.header? "Authorization" headers = some (text "Bearer tok") ∧
      d.requests = [request] ∧ request.authorization? = some (text "Basic dXNlcjpwdw==") := by
  intro c d
  let url : Url :=
    { scheme := text "http", userinfo := text "user:pw", host := text "h", path := text "/" }
  have hurl : Url.ofText (Url.ofModel c.model) = .ok url := by rfl
  have hhost : url.checkHost = .ok () := by rfl
  have hmade : Request.headers none (some (text "tok")) .unknown (text "3.11.2") = .ok _ := rfl
  obtain ⟨written, hsendable⟩ := Call.sendable_plain_url hurl hhost hmade
  obtain ⟨request, hrequest, -, hrequests, -⟩ := run_of_sendable hsendable
    (s := Settings.ofEnvironment []) ⟨by decide, by decide⟩ [.answer ⟨200, none, (text "[]").utf8⟩]
  have hone : d.requests = [request] := hrequests
  obtain ⟨policy, hprepared⟩ := prepare_of_mem_requests (hone ▸ List.mem_singleton_self request)
  obtain ⟨headers, hheaders, -, -, hauthorization, -⟩ := Call.exists_headers_of_prepare hprepared
  have hbasic : url.basicAuthorization? = some (text "Basic dXNlcjpwdw==") := by decide
  refine ⟨headers, request, hheaders, ?_, hone, ?_⟩
  · rw [Call.header?_authorization hheaders]
    rfl
  · rw [hauthorization, hrequest, hbasic, Option.some_or]

end Delivery

end CompletionWire
