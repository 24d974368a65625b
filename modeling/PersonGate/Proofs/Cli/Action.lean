import PersonGate.Proofs.Cli.LateReply
import PersonGate.Proofs.Cli.Login
import PersonGate.Proofs.Panel.Likeness
/-!
# What an action does, prints and ends with

An action command is one exchange. Its token is the one that its source gives at the end of the wait
(`runAction_ok`), and the line that is printed, the request and the exit code are all read off the
exchange (`Run.ofExchange`), so they agree. Without a token there is nothing to read
(`runAction_error`). An action ends in one of three ways, which `act_exact` tells apart.
-/
namespace PersonGate.Cli
open ActionPanel TimedPanel

/-- What an exchange prints, sends and ends with. -/
def Run.ofExchange (exchange : Exchange) : Run where
  output := (exchange.outcome?.map fun outcome => Invocation.line outcome.message.toList).getD []
  requests := exchange.arrived
  ending := match exchange.outcome? with
    | some .succeeded => .exited successCode
    | some .failed => .exited failureCode
    | none => .waiting

/-- The run waits for ever if the exchange has no end. -/
theorem Run.ofExchange_waiting_iff {exchange : Exchange} :
    (ofExchange exchange).ending = .waiting ↔ exchange.result? = none := by
  rw [ofExchange, Exchange.outcome?]
  cases exchange.result? with
  | none => simp
  | some result =>
    simp only [Option.map_some]
    cases Outcome.ofResult result <;> simp

/-! ## What is read off the trigger -/

namespace Invocation
variable {invocation : Invocation} {late : Option LateReply} {surroundings : Surroundings}
  {tokens : TokenSource} {action : PersonAction}

/-- The instant at which an action asks for its token and sends its request. -/
def sendsAt (invocation : Invocation) : Nat := invocation.clientConfig.sendsAt 0

/-- The exchange of an action with a token. -/
def exchange (invocation : Invocation) (late : Option LateReply) (surroundings : Surroundings)
    (token : BearerToken) (action : PersonAction) : Exchange :=
  exchangeLate late surroundings.endpoint invocation.clientConfig invocation.sendsAt token action

/-- What an action prints, sends and ends with when its trigger is left like this. -/
def runOfTrack (track : Track) : Run where
  output := (track.readings TaskEvent.notice?).flatMap fun outcome => line outcome.message.toList
  requests := track.readings TaskEvent.arrived?
  ending :=
    if track.tasks = [] then
      .exited (if (track.readings TaskEvent.result?).getLast? = some .succeeded then successCode
        else failureCode)
    else .waiting

/-- An action is what the wait leaves of its trigger. -/
theorem exists_runOfTrack (hsource : invocation.source = .ok tokens) (action : PersonAction)
    (surroundings : Surroundings) (late : Option LateReply) :
    let setting : PanelSetting := ⟨invocation.clientConfig, tokens, surroundings.endpoint⟩
    ∃ s, JustTriggered setting action s ∧ s.now = 0 ∧ s.environment = surroundings.environment ∧
      invocation.runAction action surroundings late = runOfTrack
        (((answerLate setting action s late).waitIdle setting none).1.panel.track 0) := by
  intro setting
  have hfirst := JustTriggered.first setting surroundings.environment action
  refine ⟨_, hfirst, rfl, rfl, ?_⟩
  have hpanel : invocation.actionPanel tokens action surroundings late =
      (answerLate setting action (TimedPanel.trigger setting
        { environment := surroundings.environment } action) late).waitIdle setting none := rfl
  unfold runAction
  simp only [hsource, hpanel]
  generalize TimedPanel.trigger setting _ action = s at hfirst
  have h := hfirst.orderly_answerLate late
  have hlog := hfirst.coherent_answerLate late
  generalize answerLate setting action s late = answered at h hlog
  have hlast : Coherent setting.config (answered.waitIdle setting none).1.panel := by
    obtain ⟨moves, hmoves⟩ := reaches_waitIdle setting answered none
    exact hmoves ▸ hlog.play moves
  have hreadings : ∀ {α : Type} (read : TaskEvent → Option α),
      readings read (answered.waitIdle setting none).1.panel.log =
        ((answered.waitIdle setting none).1.panel.track 0).readings read :=
    fun read => (h.waitIdle none).readings_eq hlast read
  have hidle := h.waitIdle_iff hlog none
  simp only [runOfTrack, outcomes, requests, hreadings, ← hidle]
  cases hdone : (answered.waitIdle setting none).2 with
  | false => rfl
  | true =>
    have hgone := List.length_eq_zero_iff.1 (outstanding_waitIdle hdone)
    rw [hlast.status_of_finished (by simp [hgone]), lastResult?, hreadings]
    cases (((answered.waitIdle setting none).1.panel.track 0).readings
      TaskEvent.result?).getLast? <;> simp

theorem source_dependsOnTime (hsource : invocation.source = .ok tokens) : tokens.DependsOnTime := by
  intro a b _ henv
  rw [source_call hsource, source_call hsource, henv]

/-- An action without a token prints nothing and sends nothing. -/
theorem runAction_error (hsource : invocation.source = .ok tokens) {cause : TokenError}
    (hanswer : tokens ⟨0, invocation.sendsAt, surroundings.environment⟩ = .error cause) :
    invocation.runAction action surroundings late = { ending := .exited failureCode } := by
  obtain ⟨s, h, hnow, henv, hrun⟩ := exists_runOfTrack hsource action surroundings late
  rw [hrun, h.track_error (source_dependsOnTime hsource) (by rw [hnow, henv]; exact hanswer) late]
  rfl

/-- An action with a token is its exchange. -/
theorem runAction_ok (hsource : invocation.source = .ok tokens) {token : BearerToken}
    (hanswer : tokens ⟨0, invocation.sendsAt, surroundings.environment⟩ = .ok token) :
    invocation.runAction action surroundings late =
      .ofExchange (invocation.exchange late surroundings token action) := by
  obtain ⟨s, h, hnow, henv, hrun⟩ := exists_runOfTrack hsource action surroundings late
  have hexchanged := h.exchanged (source_dependsOnTime hsource)
    (by rw [hnow, henv]; exact hanswer) late
  rw [hnow] at hexchanged
  rw [hrun, Run.ofExchange, exchange, sendsAt, arrived_exchangeLate, Exchange.outcome?]
  rcases hexchanged with ⟨u, result, hresult, htrack⟩ | ⟨hnone, htrack⟩
  · rw [htrack, hresult, runOfTrack, Track.arrived_ended, Track.outcomes_ended,
      Track.results_ended]
    simp only [Option.map_some]
    cases Outcome.ofResult result <;> rfl
  · rw [htrack, hnone, runOfTrack, Track.arrived_sent]
    rfl

/-- An action has no source, or the source has no token, or it is the exchange with the token. -/
theorem runAction_cases (invocation : Invocation) (action : PersonAction)
    (surroundings : Surroundings) (late : Option LateReply) :
    let run := invocation.runAction action surroundings late
    let call : TokenCall := ⟨0, invocation.sendsAt, surroundings.environment⟩
    (invocation.HasBlankToken ∧ run = { ending := .failed (.token .empty) }) ∨
      (∃ tokens cause, invocation.source = .ok tokens ∧ tokens call = .error cause ∧
        run = { ending := .exited failureCode }) ∨
      ∃ tokens token, invocation.source = .ok tokens ∧ tokens call = .ok token ∧
        run = .ofExchange (invocation.exchange late surroundings token action) := by
  intro run call
  cases hsource : invocation.source with
  | error cause =>
    obtain ⟨hblank, rfl⟩ := source_eq_error_iff.1 hsource
    exact .inl ⟨hblank, by simp only [run, runAction, hsource]⟩
  | ok tokens =>
    cases hanswer : tokens call with
    | error cause =>
      exact .inr (.inl ⟨tokens, cause, rfl, hanswer, runAction_error hsource hanswer⟩)
    | ok token => exact .inr (.inr ⟨tokens, token, rfl, hanswer, runAction_ok hsource hanswer⟩)

end Invocation

/-! ## The three ends -/

/-- How an action ends. -/
inductive ActionEnd where
  | succeeded
  | failed
  | withoutToken
  deriving DecidableEq, Repr

namespace ActionEnd

def output : ActionEnd → Text
  | .succeeded => "Action successful\n".toList
  | .failed => "Action failed\n".toList
  | .withoutToken => []

def code : ActionEnd → Nat
  | .succeeded => 0
  | .failed | .withoutToken => 1

theorem output_injective {a b : ActionEnd} (h : a.output = b.output) : a = b := by
  revert h
  cases a <;> cases b <;> decide

end ActionEnd

namespace Invocation

/-- Why an action ends as it does. -/
def Reason (invocation : Invocation) (action : PersonAction) (late : Option LateReply)
    (surroundings : Surroundings) (run : Run) : ActionEnd → Prop
  | .succeeded => ∃ tokens token status, invocation.source = .ok tokens ∧
      tokens ⟨0, invocation.sendsAt, surroundings.environment⟩ = .ok token ∧
      run.requests = [invocation.clientConfig.request token action] ∧
      (invocation.exchange late surroundings token action).result? = some (.ok status) ∧
      200 ≤ status ∧ status ≤ 299
  | .failed => ∃ tokens token result, invocation.source = .ok tokens ∧
      tokens ⟨0, invocation.sendsAt, surroundings.environment⟩ = .ok token ∧
      (invocation.exchange late surroundings token action).result? = some result ∧
      ¬IsFulfilled result
  | .withoutToken => run.requests = [] ∧
      (invocation.HasBlankToken ∧ run.ending = .failed (.token .empty) ∨
        invocation.token = none ∧ run.ending = .exited 1 ∧
          ∀ raw, surroundings.environment.var? invocation.tokenEnv = some raw →
            ∀ c ∈ raw, Text.isBlank c = true)

/-- The run of an action ends in this way. -/
structure EndsAs (invocation : Invocation) (action : PersonAction) (late : Option LateReply)
    (surroundings : Surroundings) (run : Run) (how : ActionEnd) : Prop where
  output : run.output = how.output
  code : run.ending.exitCode? = some how.code
  reason : invocation.Reason action late surroundings run how

variable {invocation : Invocation} {late : Option LateReply} {surroundings : Surroundings}
  {action : PersonAction} {token : BearerToken}

/-- How a run with a token ends. -/
theorem endsAs_ofExchange {tokens : TokenSource} (hsource : invocation.source = .ok tokens)
    (hanswer : tokens ⟨0, invocation.sendsAt, surroundings.environment⟩ = .ok token)
    {result : Except TransportError Http.Status}
    (hresult : (invocation.exchange late surroundings token action).result? = some result) :
    ∃ how, invocation.EndsAs action late surroundings
      (.ofExchange (invocation.exchange late surroundings token action)) how := by
  have houtcome : (invocation.exchange late surroundings token action).outcome? =
      some (Outcome.ofResult result) := by rw [Exchange.outcome?, hresult, Option.map_some]
  by_cases hverdict : IsFulfilled result
  · have hdone := Outcome.ofResult_eq_succeeded_iff_isFulfilled.2 hverdict
    obtain ⟨status, rfl⟩ : ∃ status, result = .ok status := by
      cases result with
      | ok status => exact ⟨status, rfl⟩
      | error cause => exact absurd hverdict id
    rw [hdone] at houtcome
    refine ⟨.succeeded, ?_, ?_, tokens, token, status, hsource, hanswer, ?_, hresult, hverdict⟩
    · rw [Run.ofExchange, houtcome]
      rfl
    · rw [Run.ofExchange, houtcome]
      rfl
    · exact arrives_of_answered hresult
  · have hfailed : Outcome.ofResult result = .failed := by
      cases h : Outcome.ofResult result with
      | failed => rfl
      | succeeded => exact absurd (Outcome.ofResult_eq_succeeded_iff_isFulfilled.1 h) hverdict
    rw [hfailed] at houtcome
    refine ⟨.failed, ?_, ?_, tokens, token, result, hsource, hanswer, hresult, hverdict⟩
    · rw [Run.ofExchange, houtcome]
      rfl
    · rw [Run.ofExchange, houtcome]
      rfl

/-- Another environment makes no difference to an action with a fixed token. -/
theorem runAction_environment {raw : Text} (htoken : invocation.token = some raw)
    (environment : Environment) :
    invocation.runAction action { surroundings with environment } late =
      invocation.runAction action surroundings late := by
  cases hraw : BearerToken.ofText raw with
  | error cause =>
    have hsource : invocation.source = .error (.token cause) := by simp [source, htoken, hraw]
    simp only [runAction, hsource]
  | ok token =>
    have hsource : invocation.source = .ok (.fixed token) := by simp [source, htoken, hraw]
    rw [runAction_ok hsource rfl, runAction_ok hsource rfl]
    rfl

/-- **The exit code, the line and the request of an action agree.** Whatever the environment is and
whatever the endpoint does, at once or late: at most one request is sent, and it has the method of
the action. If the wait ends, it is in exactly one of three ways: the request was answered with a
status from 200 to 299, and the run says so; there was a token and the exchange failed, and the run
says so; there was no token, and nothing is sent or said. The wait does not end only if the endpoint
holds the request without a time limit and nothing comes back. A fixed token leaves the environment
without any influence. -/
theorem act_exact (hcommand : invocation.command = .act action) (late : Option LateReply)
    (surroundings : Surroundings) :
    let run := invocation.runWith late surroundings
    (run.requests.length ≤ 1 ∧ ∀ request ∈ run.requests, request.method = action.method) ∧
    (run.ending ≠ .waiting → ∃! how, invocation.EndsAs action late surroundings run how) ∧
    (run.ending = .waiting → invocation.clientConfig.requestTimeout = none ∧ late = none ∧
      ∃ token, surroundings.endpoint.receive invocation.sendsAt
        (invocation.clientConfig.request token action) = .held) ∧
    (invocation.token ≠ none → ∀ environment,
      invocation.runWith late { surroundings with environment } = run) := by
  intro run
  have hrun : ∀ surroundings, invocation.runWith late surroundings =
      invocation.runAction action surroundings late := by
    intro surroundings
    rw [runWith, hcommand]
  have hone : ∀ how, invocation.EndsAs action late surroundings run how →
      ∃! how, invocation.EndsAs action late surroundings run how := fun how hends =>
    ⟨how, hends, fun other hother =>
      ActionEnd.output_injective (hother.output.symm.trans hends.output)⟩
  have hfixed : invocation.token ≠ none → ∀ environment,
      invocation.runWith late { surroundings with environment } = run := by
    intro htoken environment
    obtain ⟨raw, hraw⟩ := Option.ne_none_iff_exists'.1 htoken
    simp only [run, hrun]
    exact runAction_environment hraw environment
  have hcases := runAction_cases invocation action surroundings late
  simp only [← hrun] at hcases
  change _ ∧ run = _ ∨ (∃ tokens cause, _ ∧ _ ∧ run = _) ∨ ∃ tokens token, _ ∧ _ ∧ run = _ at hcases
  clear_value run
  rcases hcases with ⟨hblank, rfl⟩ | ⟨tokens, cause, hsource, hanswer, rfl⟩ |
    ⟨tokens, token, hsource, hanswer, rfl⟩
  · exact ⟨by simp, fun _ => hone .withoutToken ⟨rfl, rfl, rfl, .inl ⟨hblank, rfl⟩⟩, by simp,
      hfixed⟩
  · obtain ⟨hnone, hvar⟩ := blank_of_source_call hsource hanswer
    exact ⟨by simp, fun _ => hone .withoutToken ⟨rfl, rfl, rfl, .inr ⟨hnone, rfl, hvar⟩⟩, by simp,
      hfixed⟩
  · refine ⟨?_, fun hending => ?_, fun hending => ?_, hfixed⟩
    · show (invocation.exchange late surroundings token action).arrived.length ≤ 1 ∧
        ∀ request ∈ (invocation.exchange late surroundings token action).arrived, _
      rw [exchange, arrived_exchangeLate]
      split <;> simp [ClientConfig.request]
    · obtain ⟨result, hresult⟩ :=
        Option.ne_none_iff_exists'.1 (mt Run.ofExchange_waiting_iff.2 hending)
      obtain ⟨how, hends⟩ := endsAs_ofExchange hsource hanswer hresult
      exact hone how hends
    · obtain ⟨hheld, htimeout, hlate⟩ :=
        held_of_result?_eq_none (Run.ofExchange_waiting_iff.1 hending)
      exact ⟨htimeout, hlate, token, hheld⟩

/-- A request to create that is answered with a status of success. -/
theorem act_exact_created :
    let invocation := Invocation.ofGiven { token := some ['t'] } (.act .create)
    let surroundings : Surroundings := ⟨{}, .replying (.status 201), fun _ => none, [], []⟩
    let run := invocation.runWith none surroundings
    invocation.command = .act .create ∧ run.ending = .exited 0 ∧
      ∃! how, invocation.EndsAs .create none surroundings run how := by
  intro invocation surroundings run
  have hsource : invocation.source = .ok (.fixed ⟨['t']⟩) := rfl
  have hrun : invocation.runAction .create surroundings none =
      .ofExchange (invocation.exchange none surroundings ⟨['t']⟩ .create) :=
    runAction_ok hsource rfl
  have hending : run.ending = .exited 0 := by
    show (invocation.runAction .create surroundings none).ending = _
    rw [hrun]
    rfl
  have hcommand : invocation.command = .act .create := rfl
  obtain ⟨-, hhow, -, -⟩ := act_exact hcommand none surroundings
  exact ⟨hcommand, hending, hhow (by rw [hending]; rintro ⟨⟩)⟩

end Invocation
end PersonGate.Cli
