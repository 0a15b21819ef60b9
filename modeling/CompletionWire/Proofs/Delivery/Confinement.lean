import CompletionWire.Proofs.Delivery.Trace
import CompletionWire.Proofs.Request.Headers

/-!
# Where a token goes

A token takes part in a delivery in one place, the headers, and leaves it in one field of a request,
the authorization. A delivery with a token that may be shown is therefore the delivery without one,
with every request authorized; one with an illegal token is refused in a way that does not depend on
the token; and where no token is shown, the delivery does not depend on it at all. Credentials in
the URL would take the place of the token, so there must be none.
-/

namespace CompletionWire

namespace Request

/-- A tab is the one control character that a token may hold. -/
def IsLegalToken (token : Text) : Prop := ∀ c ∈ token, (c.val < 0x20 → c.val = 9) ∧ c.val ≠ 0x7F

instance (token : Text) : Decidable (IsLegalToken token) :=
  inferInstanceAs (Decidable (∀ c ∈ token, _))

def bearer (token : Text) : Text := text "Bearer " ++ token

theorem all_isFieldCodePoint_bearer_iff {token : Text} :
    (bearer token).all isFieldCodePoint = true ↔ IsLegalToken token := by
  have hscheme : (text "Bearer ").all isFieldCodePoint = true := by decide
  rw [bearer, List.all_append, hscheme, Bool.true_and, List.all_eq_true]
  refine forall₂_congr fun c _ => ?_
  simp only [isFieldCodePoint, Bool.or_eq_true, Bool.and_eq_true, decide_eq_true_eq]
  omega

theorem isFieldText_bearer {token : Text} (hlegal : IsLegalToken token)
    (hunicode : token.IsUnicode) : IsFieldText (bearer token) := by
  have hscheme : (text "Bearer ").IsUnicode := by decide
  exact ⟨all_isFieldCodePoint_bearer_iff.2 hlegal, List.forall_mem_append.2 ⟨hscheme, hunicode⟩⟩

variable {selected? : Option Backend} (editor : Editor) (version : Text)

theorem headers_of_ollama (h : Backend.resolve selected? = .ollama) (token? : Option Text) :
    headers selected? token? editor version = .ok [] := by
  rw [headers, h]

/-- A backend that is shown tokens is shown those that may be, behind the User-Agent, and illegal
ones are refused, unless the User-Agent already is. -/
theorem headers_of_ne_ollama (h : Backend.resolve selected? ≠ .ollama) :
    (∃ m, ∀ token?, headers selected? token? editor version = .error m) ∨
      (∀ token, IsLegalToken token → token.IsUnicode →
        headers selected? (some token) editor version =
          .ok [(text "User-Agent", userAgent editor version),
            (text "Authorization", bearer token)]) ∧
      ∃ m, ∀ token, ¬IsLegalToken token →
        headers selected? (some token) editor version = .error m := by
  simp only [headers_eq_tokenHeaders h]
  by_cases hagent : IsFieldText (userAgent editor version)
  · have hheader := header_of_isFieldText hagent (Backend.resolve selected?) (text "User-Agent")
    refine .inr ⟨fun token hlegal hunicode => ?_,
      .failure (.invalidHeader (text "Authorization") (some (Backend.resolve selected?))),
      fun token hillegal => ?_⟩
    · have htoken := header_of_isFieldText (isFieldText_bearer hlegal hunicode)
        (Backend.resolve selected?) (text "Authorization")
      rw [bearer] at htoken
      simp only [tokenHeaders, hheader, htoken]
      rfl
    · have hcontrol : (bearer token).all isFieldCodePoint = false := by
        rw [← Bool.not_eq_true, all_isFieldCodePoint_bearer_iff]
        exact hillegal
      have htoken := header_of_illegal hcontrol (Backend.resolve selected?) (text "Authorization")
      rw [bearer] at htoken
      simp only [tokenHeaders, hheader, htoken]
      rfl
  · obtain ⟨m, hm⟩ := exists_header_eq_error hagent (Backend.resolve selected?) (text "User-Agent")
    refine .inl ⟨m, fun token? => ?_⟩
    rw [tokenHeaders, hm]
    rfl

end Request

/-- A request with this authorization in the place of its own. -/
def SentRequest.authorizedBy (a? : Option Text) (r : SentRequest) : SentRequest :=
  { r with authorization? := a? }

namespace Call

def withToken (c : Call) (token? : Option Text) : Call := { c with token? }

/-- The URL of a call, if it is one, holds no credentials. -/
def HasPlainUrl (c : Call) : Prop :=
  ∀ url, Url.ofText (Url.ofModel c.model) = .ok url → url.userinfo = []

variable {c : Call} {s : Settings} {body : Members}

theorem basicAuthorization?_of_hasPlainUrl (hplain : c.HasPlainUrl) {url : Url}
    (hurl : Url.ofText (Url.ofModel c.model) = .ok url) : url.basicAuthorization? = none := by
  rw [Url.basicAuthorization?, hplain url hurl]
  rfl

theorem assemble_eq_map (hplain : c.HasPlainUrl) {headers headers' : Headers}
    (hagent : header? "User-Agent" headers' = header? "User-Agent" headers) :
    c.assemble s body headers' = (c.assemble s body headers).map fun p =>
      (p.1.authorizedBy (header? "Authorization" headers'), p.2) := by
  rw [assemble, assemble]
  cases Policy.ofSettings s with
  | error m => rfl
  | ok policy =>
    cases hurl : Url.ofText (Url.ofModel c.model) with
    | error fault => rfl
    | ok url =>
      have hbasic := basicAuthorization?_of_hasPlainUrl hplain hurl
      cases Request.wireText body with
      | error m => rfl
      | ok written =>
        cases hhost : url.checkHost with
        | error fault =>
          simp only [bind, Except.bind, Except.mapError, hhost]
          rfl
        | ok _ =>
          simp only [bind, Except.bind, Except.mapError, hhost, hbasic, hagent]
          rfl

def headersWith (c : Call) (token? : Option Text) : Except Mishap Headers :=
  Request.headers c.params.backend? token? c.editor c.runtimeVersion

theorem prepare_withToken (c : Call) (token? : Option Text) (s : Settings) :
    (c.withToken token?).prepare s = (Request.buildBody c.prompt c.params).map fun r =>
      (r.mapError Mishap.failure).bind fun body =>
        (c.headersWith token?).bind fun headers => c.assemble s body headers := by
  rw [prepare]
  congr 1
  funext r
  cases r <;> rfl

end Call

namespace Delivery

def authorizedBy (a? : Option Text) (d : Delivery) : Delivery :=
  { d with requests := d.requests.map (SentRequest.authorizedBy a?) }

theorem authorizedBy_of_no_requests {d : Delivery} (h : d.requests = []) (a? : Option Text) :
    d.authorizedBy a? = d := by
  rw [authorizedBy, h, List.map_nil, ← h]

variable {c : Call} {s : Settings} {script : Script} {token? token'? : Option Text}

theorem run_withToken_congr (h : c.headersWith token? = c.headersWith token'?) :
    run (c.withToken token?) s script = run (c.withToken token'?) s script := by
  simp only [run, Call.prepare_withToken, h]
  rfl

/-- A delivery depends on its headers by the authorization of its requests alone, as long as they
tell the same User-Agent. -/
theorem run_withToken_of_headers (hplain : c.HasPlainUrl) {headers headers' : Headers}
    (h : c.headersWith token? = .ok headers) (h' : c.headersWith token'? = .ok headers')
    (hagent : Call.header? "User-Agent" headers' = Call.header? "User-Agent" headers) :
    run (c.withToken token'?) s script =
      (run (c.withToken token?) s script).authorizedBy
        (Call.header? "Authorization" headers') := by
  simp only [run, Call.prepare_withToken, h, h', Logged.map]
  cases (Request.buildBody c.prompt c.params).value with
  | error f => rfl
  | ok body =>
    simp only [Except.mapError, Except.bind, Call.assemble_eq_map hplain hagent]
    cases c.assemble s body headers with
    | error m => rfl
    | ok p =>
      simp only [Except.map, authorizedBy, List.map_replicate]
      rfl

theorem authorization?_of_run (hplain : c.HasPlainUrl) {headers : Headers}
    (h : c.headersWith token? = .ok headers) :
    ∀ r ∈ (run (c.withToken token?) s script).requests,
      r.authorization? = Call.header? "Authorization" headers := by
  rw [run_withToken_of_headers hplain h h rfl]
  exact List.forall_mem_map.2 fun _ _ => rfl

theorem run_refused {m : Mishap} (h : c.headersWith token? = .error m) :
    (run (c.withToken token?) s script).requests = [] ∧
      ∃ m', (run (c.withToken token?) s script).result = .error m' := by
  simp only [run, Call.prepare_withToken, h, Logged.map]
  cases (Request.buildBody c.prompt c.params).value with
  | error f => exact ⟨rfl, _, rfl⟩
  | ok body => exact ⟨rfl, _, rfl⟩

/-- A token goes nowhere but into the authorization. A backend that is not shown any sees the same
delivery for all tokens, and no authorization. The others see deliveries for two tokens that may be
shown which are the same but for the authorization of each request, and for two illegal tokens the
same refusal. -/
theorem run_confines_token (c : Call) (s : Settings) (script : Script) (hplain : c.HasPlainUrl) :
    let runWith (token? : Option Text) := run (c.withToken token?) s script
    (c.params.backend = .ollama →
      (∀ token? token'?, runWith token? = runWith token'?) ∧
      ∀ token?, ∀ r ∈ (runWith token?).requests, r.authorization? = none) ∧
    (c.params.backend ≠ .ollama →
      (∀ token token', Request.IsLegalToken token → token.IsUnicode →
        Request.IsLegalToken token' → token'.IsUnicode →
        runWith (some token') =
          (runWith (some token)).authorizedBy (some (text "Bearer " ++ token')) ∧
        ∀ r ∈ (runWith (some token)).requests,
          r.authorization? = some (text "Bearer " ++ token)) ∧
      ∀ token token', ¬Request.IsLegalToken token → ¬Request.IsLegalToken token' →
        runWith (some token) = runWith (some token') ∧ (runWith (some token)).requests = [] ∧
        ∃ m, (runWith (some token)).result = .error m) := by
  intro runWith
  refine ⟨fun hollama => ?_, fun hother => ?_⟩
  · have hheaders (token? : Option Text) : c.headersWith token? = .ok [] :=
      Request.headers_of_ollama c.editor c.runtimeVersion hollama token?
    exact ⟨fun token? token'? => run_withToken_congr (by rw [hheaders, hheaders]),
      fun token? => authorization?_of_run hplain (hheaders token?)⟩
  · rcases Request.headers_of_ne_ollama c.editor c.runtimeVersion hother with
      ⟨m, hm⟩ | ⟨hshown, m, hrefused⟩
    · have hheaders (token? : Option Text) : c.headersWith token? = .error m := hm token?
      have hsame (token? token'? : Option Text) : runWith token? = runWith token'? :=
        run_withToken_congr (by rw [hheaders, hheaders])
      have hnone (token? : Option Text) :
          (runWith token?).requests = [] ∧ ∃ m', (runWith token?).result = .error m' :=
        run_refused (hheaders token?)
      refine ⟨fun token token' _ _ _ _ => ⟨?_, ?_⟩, fun token token' _ _ =>
        ⟨hsame _ _, hnone _⟩⟩
      · rw [authorizedBy_of_no_requests (hnone (some token)).1]
        exact hsame _ _
      · rw [(hnone (some token)).1]
        exact fun _ h => absurd h List.not_mem_nil
    · refine ⟨fun token token' hlegal hunicode hlegal' hunicode' => ?_,
        fun token token' hillegal hillegal' => ?_⟩
      · have hheaders := hshown token hlegal hunicode
        have hheaders' := hshown token' hlegal' hunicode'
        exact ⟨run_withToken_of_headers hplain hheaders hheaders' rfl,
          authorization?_of_run hplain hheaders⟩
      · have hheaders := hrefused token hillegal
        have hheaders' := hrefused token' hillegal'
        exact ⟨run_withToken_congr (hheaders.trans hheaders'.symm), run_refused hheaders⟩

/-- Two attempts to send a request show the one token or the other, and a line end and a lone
surrogate in a token are refused alike. -/
theorem run_confines_token_plain :
    let c := Call.plain (text "gpt2") (text "hi")
    let script := [.error (.transport .readTimeout []), .answer ⟨200, none, (text "[]").utf8⟩]
    let runWith (token : Text) :=
      run (c.withToken (some token)) (Settings.ofEnvironment []) script
    let accented := text "é\t1"
    runWith accented = (runWith (text "hf_b")).authorizedBy (some (text "Bearer é\t1")) ∧
    (runWith accented).requests.map SentRequest.authorization? =
      List.replicate 2 (some (text "Bearer é\t1")) ∧
    runWith (text "hf\nb") = runWith (CodePoint.ofNat 0x7F :: [CodePoint.ofNat 0xDCFF]) := by
  intro c script runWith accented
  have hplain : c.HasPlainUrl := by
    intro url hurl
    have hnone : (Url.ofText (Url.ofModel c.model)).toOption.map Url.userinfo = some [] := by
      decide +kernel
    rw [hurl] at hnone
    exact Option.some.inj hnone
  obtain ⟨-, hothers⟩ := run_confines_token c (Settings.ofEnvironment []) script hplain
  obtain ⟨hshown, hrefused⟩ := hothers (by decide)
  have haccented : Request.IsLegalToken accented ∧ accented.IsUnicode := ⟨by decide, by decide⟩
  have hletters : Request.IsLegalToken (text "hf_b") ∧ (text "hf_b").IsUnicode :=
    ⟨by decide, by decide⟩
  obtain ⟨hsame, -⟩ := hshown _ _ hletters.1 hletters.2 haccented.1 haccented.2
  obtain ⟨-, hauthorization⟩ := hshown _ _ haccented.1 haccented.2 hletters.1 hletters.2
  obtain ⟨url, written, -, hsendable⟩ := Call.sendable_plain
  have hwaits : (Settings.ofEnvironment []).HasExactWaits := ⟨by decide, by decide⟩
  have hcall : (c.withToken (some accented)).Sendable url written :=
    ⟨hsendable.url_eq, hsendable.host_eq, hsendable.body_eq, _, by rfl⟩
  obtain ⟨request, -, -, hrequests, -⟩ := run_of_sendable hcall hwaits script
  have hlength : (runWith accented).requests.length = 2 := by
    rw [show (runWith accented).requests = _ from hrequests, List.length_replicate]
    decide
  have hall := List.eq_replicate_iff.2
    ⟨(List.length_map _).trans hlength, List.forall_mem_map.2 hauthorization⟩
  exact ⟨hsame, hall, (hrefused _ _ (by decide) (by decide)).1⟩

end Delivery

end CompletionWire
