import Mathlib.Data.List.Chain
import PracticeClient.Http.Transport

namespace PracticeClient.Http

open Program (Handler)

abbrev Dialogue : Type := List (Request × Option Response)

variable {σ : Type}

def recording (handle : Handler Op Op.Answer σ) : Handler Op Op.Answer (σ × Dialogue)
  | .send request, (state, dialogue) =>
    let (response, after) := handle (.send request) state
    (response, (after, dialogue ++ [(request, response)]))
  | .log entry, (state, dialogue) => ((), ((handle (.log entry) state).2, dialogue))

theorem run_recording {α : Type} (handle : Handler Op Op.Answer σ) (exchange : Exchange α)
    (state : σ) (dialogue : Dialogue) :
    (exchange.run (recording handle) (state, dialogue)).1 = (exchange.run handle state).1 ∧
      (exchange.run (recording handle) (state, dialogue)).2.1 = (exchange.run handle state).2 := by
  induction exchange generalizing state dialogue with
  | done value => exact ⟨rfl, rfl⟩
  | step op next ih =>
    cases op with
    | send request => exact ih _ _ _
    | log entry => exact ih _ _ _

/-! ## Exchanges -/

def Followed [Idna] (before after : Request × Option Response) : Prop :=
  ∃ response, before.2 = some response ∧ redirect? before.1 response = some after.1 ∧
    isWeb after.1.url = true

inductive Ends [Idna] (most count : Nat) (request : Request) :
    Option Response → Except NetworkFailure Response → Prop where
  | unanswered : Ends most count request none (.error (.unanswered request.url.text))
  | answered {response : Response} (last : redirect? request response = none) :
      Ends most count request (some response) (.ok response)
  | exhausted {response : Response} {next : Request} (more : redirect? request response = some next)
      (full : count = most + 1) :
      Ends most count request (some response) (.error (.tooManyRedirects request.url.text))
  | astray {response : Response} {next : Request} (more : redirect? request response = some next)
      (room : count ≤ most) (strange : isWeb next.url = false) :
      Ends most count request (some response) (.error (.unsupported next.url.text))

/-- A dialogue that begins with a request, takes up to so many redirects and comes to a result. -/
structure Led [Idna] (most : Nat) (request : Request) (dialogue : Dialogue)
    (result : Except NetworkFailure Response) : Prop where
  first : dialogue.head?.map Prod.fst = some request
  chain : dialogue.IsChain Followed
  length : dialogue.length ≤ most + 1
  ends : ∃ last response, dialogue.getLast? = some (last, response) ∧
    Ends most dialogue.length last response result

namespace Led

variable {most : Nat} {request : Request} {result : Except NetworkFailure Response}

theorem single [Idna] {response : Option Response} (ends : Ends most 1 request response result) :
    Led most request [(request, response)] result :=
  ⟨rfl, .singleton _, Nat.succ_le_succ (Nat.zero_le _), request, response, rfl, ends⟩

theorem cons [Idna] {response : Response} {next : Request} {dialogue : Dialogue}
    (more : redirect? request response = some next) (web : isWeb next.url = true)
    (led : Led most next dialogue result) :
    Led (most + 1) request ((request, some response) :: dialogue) result := by
  obtain ⟨first, chain, length, last, answer, final, ends⟩ := led
  cases dialogue with
  | nil => cases first
  | cons second rest =>
    have same : second.1 = next := by simpa using first
    refine ⟨rfl, .cons_cons ⟨response, rfl, same ▸ more, same ▸ web⟩ chain,
      Nat.succ_le_succ length, last, answer, final, ?_⟩
    cases ends with
    | unanswered => exact .unanswered
    | answered here => exact .answered here
    | exhausted more full => exact .exhausted more (congrArg (· + 1) full)
    | astray more room strange => exact .astray more (Nat.succ_le_succ room) strange

theorem ok_iff [Idna] {dialogue : Dialogue} (led : Led most request dialogue result)
    (response : Response) :
    result = .ok response ↔ ∃ last, dialogue.getLast? = some (last, some response) ∧
      redirect? last response = none := by
  obtain ⟨-, -, -, last, answer, final, ends⟩ := led
  constructor
  · rintro rfl
    cases ends with
    | answered here => exact ⟨last, final, here⟩
  · rintro ⟨other, there, here⟩
    cases final.symm.trans there
    cases ends with
    | answered => rfl
    | exhausted more => rw [here] at more; cases more
    | astray more => rw [here] at more; cases more

end Led

def goOn [Idna] (most : Nat) (request : Request) :
    Option Response → Exchange (Except NetworkFailure Response)
  | none => pure (.error (.unanswered request.url.text))
  | some response =>
    match redirect? request response with
    | none => pure (.ok response)
    | some next =>
      match most with
      | 0 => pure (.error (.tooManyRedirects request.url.text))
      | most + 1 =>
        if isWeb next.url then exchange most next
        else pure (.error (.unsupported next.url.text))

theorem exchange_eq [Idna] (most : Nat) (request : Request) :
    exchange most request = .step (.send request) (goOn most request) := by
  cases most <;>
  · rw [exchange]
    refine congrArg (Program.step (Op.send request)) (funext fun response => ?_)
    cases response with
    | none => rfl
    | some response => cases more : redirect? request response <;> simp [goOn, more]

theorem led_exchange [Idna] (handle : Handler Op Op.Answer σ) (most : Nat) (request : Request)
    (state : σ) (before : Dialogue) :
    ∃ dialogue, ((exchange most request).run (recording handle) (state, before)).2.2 =
        before ++ dialogue ∧
      Led most request dialogue
        ((exchange most request).run (recording handle) (state, before)).1 := by
  -- The redirects that are left carry the induction; the record so far is any.
  induction most generalizing request state before with
  | zero =>
    rw [exchange_eq, Program.run_step, recording]
    dsimp only
    cases (handle (.send request) state).1 with
    | none => exact ⟨_, rfl, .single .unanswered⟩
    | some response =>
      rw [goOn]
      cases more : redirect? request response with
      | none => exact ⟨_, rfl, .single (.answered more)⟩
      | some next => exact ⟨_, rfl, .single (.exhausted more rfl)⟩
  | succ most ih =>
    rw [exchange_eq, Program.run_step, recording]
    dsimp only
    cases (handle (.send request) state).1 with
    | none => exact ⟨_, rfl, .single .unanswered⟩
    | some response =>
      rw [goOn]
      cases more : redirect? request response with
      | none => exact ⟨_, rfl, .single (.answered more)⟩
      | some next =>
        dsimp only
        cases web : isWeb next.url with
        | false =>
          exact ⟨_, rfl, .single (.astray more (Nat.succ_le_succ (Nat.zero_le _)) web)⟩
        | true =>
          obtain ⟨dialogue, same, led⟩ :=
            ih next (handle (.send request) state).2 (before ++ [(request, some response)])
          refine ⟨(request, some response) :: dialogue, ?_, led.cons more web⟩
          rw [← List.append_cons] at same
          exact same

/-! ## Posts -/

def Brings [Idna] (dialogue : Dialogue) (value : Json.Value) : Prop :=
  ∃ request response, dialogue.getLast? = some (request, some response) ∧
    redirect? request response = none ∧ response.status.isSuccess = true ∧
    response.truncated = false ∧ Json.parse (Text.decodeLossy response.body) = .ok value

structure Posted [Idna] (transport : Transport) (endpoint : String) (body : Json.Value)
    (dialogue : Dialogue) (result : Except TransportError Json.Value) : Prop where
  unjoined : ∀ error, transport.endpointUrl endpoint = .error error →
    dialogue = [] ∧ result = .error error ∧ ∃ detail, error = .invalidEndpoint detail
  /-- Nothing can be sent to a URL that is not for the web or does not fit into a request. -/
  unsendable : ∀ url, transport.endpointUrl endpoint = .ok url →
    isSendable (Transport.request url body).url = false →
    dialogue = [] ∧
      result = .error (.network (.unsupported (Transport.request url body).url.text))
  sent : ∀ url, transport.endpointUrl endpoint = .ok url →
    isSendable (Transport.request url body).url = true →
    dialogue.head?.map Prod.fst = some (Transport.request url body)
  /-- After the first request there is one for each redirect that is followed, and no other. -/
  chain : dialogue.IsChain Followed
  length : dialogue.length ≤ mostRedirects + 1
  brings : ∀ value, result = .ok value ↔ Brings dialogue value
  refused : ∀ request response, dialogue.getLast? = some (request, some response) →
    redirect? request response = none → response.status.isSuccess = false →
    result = .error (.ofStatus response.status
      (if response.truncated then "" else Text.decodeLossy response.body))
  broken : ∀ request response, dialogue.getLast? = some (request, some response) →
    redirect? request response = none → response.status.isSuccess = true →
    response.truncated = true → result = .error (.network .brokenBody)
  unparsed : ∀ request response fault, dialogue.getLast? = some (request, some response) →
    redirect? request response = none → response.status.isSuccess = true →
    response.truncated = false → Json.parse (Text.decodeLossy response.body) = .error fault →
    let text := Text.decodeLossy response.body
    result = .error
      (.invalidResponse s!"Failed to parse JSON from {endpoint}: {fault.message text}")
  unanswered : ∀ request, dialogue.getLast? = some (request, none) →
    result = .error (.network (.unanswered request.url.text))
  /-- A last response that points elsewhere points too far, or to where nothing can be sent. -/
  unfollowed : ∀ request response next, dialogue.getLast? = some (request, some response) →
    redirect? request response = some next →
    dialogue.length = mostRedirects + 1 ∧
        result = .error (.network (.tooManyRedirects request.url.text)) ∨
      dialogue.length ≤ mostRedirects ∧ isWeb next.url = false ∧
        result = .error (.network (.unsupported next.url.text))

def concluded (endpoint : String) :
    Except NetworkFailure Response → Except TransportError Json.Value
  | .error failure => .error (.network failure)
  | .ok response => Transport.decodeAnswer endpoint response

theorem post_joined [Idna] {transport : Transport} {endpoint : String} (body : Json.Value)
    {url : Url} (joined : transport.endpointUrl endpoint = .ok url) :
    transport.post endpoint body =
      .step (.log (Transport.postEntry url)) fun _ =>
        if isSendable (Transport.request url body).url then
          (exchange mostRedirects (Transport.request url body)).bind fun result =>
            .done (concluded endpoint result)
        else .done (.error (.network (.unsupported (Transport.request url body).url.text))) := by
  have after : (fun result : Except NetworkFailure Response =>
      (match result with
        | .error failure => pure (.error (.network failure))
        | .ok response => pure (Transport.decodeAnswer endpoint response) :
        Exchange (Except TransportError Json.Value))) =
      fun result => .done (concluded endpoint result) := by
    funext result
    cases result <;> rfl
  rw [Transport.post, joined]
  dsimp only
  rw [Program.bind_eq, ← after]
  rfl

theorem concluded_eq_ok {endpoint : String} {result : Except NetworkFailure Response}
    {value : Json.Value} :
    concluded endpoint result = .ok value ↔ ∃ response, result = .ok response ∧
      response.status.isSuccess = true ∧ response.truncated = false ∧
      Json.parse (Text.decodeLossy response.body) = .ok value := by
  cases result with
  | error failure => simp [concluded]
  | ok response =>
    cases success : response.status.isSuccess with
    | false => simp [concluded, Transport.decodeAnswer, success]
    | true =>
      cases truncated : response.truncated with
      | true => simp [concluded, Transport.decodeAnswer, success, truncated]
      | false =>
        cases parsed : Json.parse (Text.decodeLossy response.body) <;>
          simp [concluded, Transport.decodeAnswer, success, truncated, parsed]

theorem posted_of_led [Idna] {transport : Transport} {endpoint : String} {body : Json.Value}
    {url : Url} (joined : transport.endpointUrl endpoint = .ok url)
    (sendable : isSendable (Transport.request url body).url = true) {dialogue : Dialogue}
    {result : Except NetworkFailure Response}
    (led : Led mostRedirects (Transport.request url body) dialogue result) :
    Posted transport endpoint body dialogue (concluded endpoint result) := by
  -- A response that points nowhere else decides on the result alone.
  have answered {request : Request} {response : Response}
      (final : dialogue.getLast? = some (request, some response))
      (here : redirect? request response = none) :
      concluded endpoint result = Transport.decodeAnswer endpoint response :=
    congrArg (concluded endpoint) ((led.ok_iff response).2 ⟨request, final, here⟩)
  refine {
    unjoined := fun error failed => by rw [joined] at failed; cases failed
    unsendable := fun other there not => ?_
    sent := fun other there _ => ?_
    chain := led.chain
    length := led.length
    brings := fun value => concluded_eq_ok.trans ?_
    refused := fun request response final here refused => ?_
    broken := fun request response final here success truncated => ?_
    unparsed := fun request response fault final here success complete failed => ?_
    unanswered := fun request final => ?_
    unfollowed := fun request response next final more => ?_ }
  · cases joined.symm.trans there
    rw [sendable] at not
    cases not
  · cases joined.symm.trans there
    exact led.first
  · constructor
    · rintro ⟨response, same, brings⟩
      obtain ⟨last, final, here⟩ := (led.ok_iff response).1 same
      exact ⟨last, response, final, here, brings⟩
    · rintro ⟨last, response, final, here, brings⟩
      exact ⟨response, (led.ok_iff response).2 ⟨last, final, here⟩, brings⟩
  · rw [answered final here]
    simp [Transport.decodeAnswer, refused]
  · rw [answered final here]
    simp [Transport.decodeAnswer, success, truncated]
  · rw [answered final here]
    simp [Transport.decodeAnswer, success, complete, failed]
  · obtain ⟨-, -, -, last, answer, there, ends⟩ := led
    cases there.symm.trans final
    cases ends
    rfl
  · obtain ⟨-, -, -, last, answer, there, ends⟩ := led
    cases there.symm.trans final
    cases ends with
    | answered here => rw [here] at more; cases more
    | exhausted _ full => exact .inl ⟨full, rfl⟩
    | astray other room strange =>
      cases more.symm.trans other
      exact .inr ⟨room, strange, rfl⟩

theorem posted_nothing [Idna] {transport : Transport} {endpoint : String} {body : Json.Value}
    {error : TransportError}
    (unjoined : ∀ failure, transport.endpointUrl endpoint = .error failure →
      error = failure ∧ ∃ detail, failure = .invalidEndpoint detail)
    (unsendable : ∀ url, transport.endpointUrl endpoint = .ok url →
      isSendable (Transport.request url body).url = false ∧
        error = .network (.unsupported (Transport.request url body).url.text)) :
    Posted transport endpoint body [] (.error error) where
  unjoined failure failed := by
    obtain ⟨rfl, detail⟩ := unjoined failure failed
    exact ⟨rfl, rfl, detail⟩
  unsendable url joined _ := by
    obtain ⟨-, rfl⟩ := unsendable url joined
    exact ⟨rfl, rfl⟩
  sent url joined sendable := by
    rw [(unsendable url joined).1] at sendable
    cases sendable
  chain := .nil
  length := Nat.zero_le _
  brings value := ⟨nofun, fun ⟨_, _, final, _⟩ => nomatch final⟩
  refused _ _ final := nomatch final
  broken _ _ final := nomatch final
  unparsed _ _ _ final := nomatch final
  unanswered _ final := nomatch final
  unfollowed _ _ _ final := nomatch final

theorem posted_post [Idna] (handle : Handler Op Op.Answer σ) (transport : Transport)
    (endpoint : String) (body : Json.Value) (state : σ) :
    Posted transport endpoint body
      ((transport.post endpoint body).run (recording handle) (state, [])).2.2
      ((transport.post endpoint body).run (recording handle) (state, [])).1 := by
  cases joined : transport.endpointUrl endpoint with
  | error error =>
    rw [Transport.post, joined]
    refine posted_nothing (fun failure failed => ?_) fun url there => ?_
    · cases joined.symm.trans failed
      refine ⟨rfl, ?_⟩
      unfold Transport.endpointUrl at joined
      split at joined
      · cases joined
      · cases joined
        exact ⟨_, rfl⟩
    · cases joined.symm.trans there
  | ok url =>
    rw [post_joined body joined, Program.run_step]
    cases sendable : isSendable (Transport.request url body).url with
    | false =>
      refine posted_nothing (fun failure failed => ?_) fun other there => ?_
      · cases joined.symm.trans failed
      · cases joined.symm.trans there
        exact ⟨sendable, rfl⟩
    | true =>
      obtain ⟨dialogue, same, led⟩ := led_exchange handle mostRedirects
        (Transport.request url body) (handle (.log (Transport.postEntry url)) state).2 []
      rw [if_pos rfl, Program.run_bind]
      rw [List.nil_append] at same
      have posted := posted_of_led joined sendable led
      rw [← same] at posted
      exact posted

end PracticeClient.Http
