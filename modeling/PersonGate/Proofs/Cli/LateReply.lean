import PersonGate.Cli.Run
import PersonGate.Proofs.Panel.Single
/-!
# One trigger and a late reply

A request may be answered at once, refused, or held. A request that is held ends with a late reply
if that is in time, else at the time limit of the client if there is one, else never
(`exchangeLate`). The panel of an action command has one trigger (`JustTriggered`), and the wait
leaves of it what the exchange says (`JustTriggered.exchanged`), or the end that there is without a
token (`JustTriggered.track_error`).
-/
namespace PersonGate.Cli
open ActionPanel TimedPanel

/-- Does the reply come before the client gives up? -/
def LateReply.inTime (late : LateReply) (config : ClientConfig) : Bool :=
  config.requestTimeout.all fun timeout => late.span < timeout.nanoseconds

/-- The exchange that is begun at an instant: a late reply ends it if the request is held and the
reply is in time. -/
def exchangeLate (late : Option LateReply) (endpoint : Endpoint) (config : ClientConfig)
    (instant : Nat) (token : BearerToken) (action : PersonAction) : Exchange :=
  let exchange := endpoint.exchange config instant token action
  match late with
  | none => exchange
  | some late =>
    if endpoint.receive instant (config.request token action) = .held ∧ late.inTime config then
      { exchange with result? := some late.reply.result }
    else exchange

section
variable {late : Option LateReply} {endpoint : Endpoint} {config : ClientConfig} {instant : Nat}
  {token : BearerToken} {action : PersonAction}

theorem result?_of_held (h : endpoint.receive instant (config.request token action) = .held) :
    (endpoint.exchange config instant token action).result? =
      config.requestTimeout.map fun _ => .error .timedOut := by
  simp only [Endpoint.exchange, h]

/-- The request of an exchange arrives if the endpoint does not refuse it. -/
theorem arrived_exchangeLate (late : Option LateReply) (endpoint : Endpoint) (config : ClientConfig)
    (instant : Nat) (token : BearerToken) (action : PersonAction) :
    (exchangeLate late endpoint config instant token action).arrived =
      if (endpoint.receive instant (config.request token action)).arrives then
        [config.request token action]
      else [] := by
  have hsame : (exchangeLate late endpoint config instant token action).arrived =
      (endpoint.exchange config instant token action).arrived := by
    cases late with
    | none => rfl
    | some late =>
      simp only [exchangeLate]
      split <;> rfl
  rw [hsame, Endpoint.exchange]
  split <;> rename_i hreception <;> rw [hreception] <;> rfl

/-- A request that is answered has arrived. -/
theorem arrives_of_answered {status : Http.Status}
    (h : (exchangeLate late endpoint config instant token action).result? = some (.ok status)) :
    (exchangeLate late endpoint config instant token action).arrived =
      [config.request token action] := by
  rw [arrived_exchangeLate, if_pos]
  cases hreception : endpoint.receive instant (config.request token action) with
  | answered _ | held => rfl
  | refused =>
    have hrefused : (exchangeLate late endpoint config instant token action).result? =
        some (.error .broken) := by
      cases late <;> simp [exchangeLate, Endpoint.exchange, hreception]
    rw [hrefused] at h
    cases h

/-- An exchange has no end only if the request is held, there is no time limit, and nothing comes
back late. -/
theorem held_of_result?_eq_none
    (h : (exchangeLate late endpoint config instant token action).result? = none) :
    endpoint.receive instant (config.request token action) = .held ∧
      config.requestTimeout = none ∧ late = none := by
  have hrest : (endpoint.exchange config instant token action).result? = none →
      endpoint.receive instant (config.request token action) = .held ∧
        config.requestTimeout = none := by
    simp only [Endpoint.exchange]
    split <;> simp_all
  cases late with
  | none => exact ⟨(hrest h).1, (hrest h).2, rfl⟩
  | some late =>
    simp only [exchangeLate] at h
    split at h
    · cases h
    · rename_i hlate
      obtain ⟨hheld, htimeout⟩ := hrest h
      exact absurd ⟨hheld, by rw [LateReply.inTime, htimeout]; rfl⟩ hlate

end

/-! ## The one trigger of an action -/

/-- The panel has one trigger, which was made just now. -/
structure JustTriggered (setting : PanelSetting) (action : PersonAction) (s : TimedPanel) :
    Prop where
  orderly : Orderly setting.config [(s.now, action)] s
  coherent : Coherent setting.config s.panel
  track : s.panel.track 0 = Track.triggered setting.config s.now action

/-- What an exchange leaves of its trigger: it is over with the result, or it is held for ever. -/
def Exchanged (setting : PanelSetting) (t : Nat) (action : PersonAction) (token : BearerToken)
    (exchange : Exchange) (track : Track) : Prop :=
  let reception := setting.endpoint.receive (setting.config.sendsAt t)
    (setting.config.request token action)
  let sent := Track.sent setting.config t action token reception
  (∃ u result, exchange.result? = some result ∧ track = sent.resolve u result) ∨
    exchange.result? = none ∧ track = sent

namespace JustTriggered
variable {setting : PanelSetting} {action : PersonAction} {s : TimedPanel}
  {late : Option LateReply}

theorem first (setting : PanelSetting) (environment : Environment) (action : PersonAction) :
    JustTriggered setting action (TimedPanel.trigger setting { environment } action) where
  orderly := (Orderly.first setting environment action).1
  coherent := (Coherent.start setting.config).schedule 0 (setting.config.sendsAt 0) action
  track := (Orderly.first setting environment action).2

theorem orderly_answerLate (h : JustTriggered setting action s) (late : Option LateReply) :
    Orderly setting.config [(s.now, action)] (answerLate setting action s late) := by
  cases late with
  | none => exact h.orderly
  | some late => exact (h.orderly.advance _).reply action late.reply

theorem coherent_answerLate (h : JustTriggered setting action s) (late : Option LateReply) :
    Coherent setting.config (answerLate setting action s late).panel := by
  cases late with
  | none => exact h.coherent
  | some late =>
    let span := setting.config.actionDelay.nanoseconds + late.span
    have hadvance : Reaches setting.config s.panel (s.advance setting span).panel :=
      reaches_runUntil setting _ s
    obtain ⟨moves, hmoves⟩ := hadvance.trans (reaches_reply setting _ action late.reply)
    rw [answerLate, hmoves]
    exact h.coherent.play moves

/-- What the time until a late reply makes of the trigger. -/
theorem passes_advance (h : JustTriggered setting action s) (span : Nat) :
    Passes setting s.environment (some (s.now + span)) s.now
      (Track.triggered setting.config s.now action) ((s.advance setting span).panel.track 0) := by
  rw [← h.track]
  exact TimedPanel.passes_advance (h.orderly.resting 0) setting span

theorem passes_waitIdle (h : JustTriggered setting action s) :
    Passes setting s.environment none s.now (Track.triggered setting.config s.now action)
      ((s.waitIdle setting none).1.panel.track 0) := by
  rw [← h.track]
  exact h.orderly.passes_waitIdle 0

/-- A late reply does not come before the end of the wait. -/
theorem within_late (s : TimedPanel) (setting : PanelSetting) (span : Nat) :
    Within (some (s.now + (setting.config.actionDelay.nanoseconds + span)))
      (setting.config.sendsAt s.now) := by
  rw [within_some, ClientConfig.sendsAt]
  omega

/-- The client gives up before the reply if its time limit is over by then. -/
theorem inTime_iff (s : TimedPanel) (setting : PanelSetting) (late : LateReply) :
    late.inTime setting.config = true ↔
      ∀ d, deadline setting.config (setting.config.sendsAt s.now) = some d →
        ¬Within (some (s.now + (setting.config.actionDelay.nanoseconds + late.span))) d := by
  simp only [LateReply.inTime, deadline, within_some, ClientConfig.sendsAt]
  cases setting.config.requestTimeout with
  | none => simp
  | some timeout =>
    simp only [Option.all_some, decide_eq_true_eq, Option.map_some, Option.some.injEq,
      forall_eq']
    omega

section
variable (h : JustTriggered setting action s) (hsource : setting.source.DependsOnTime)
include h hsource

/-- Without a token the trigger is over at the end of its wait, whatever comes back late. -/
theorem track_error {cause : TokenError}
    (hanswer : setting.source ⟨0, setting.config.sendsAt s.now, s.environment⟩ = .error cause)
    (late : Option LateReply) :
    ((answerLate setting action s late).waitIdle setting none).1.panel.track 0 =
      .abandoned setting.config s.now action cause := by
  cases late with
  | none =>
    exact h.passes_waitIdle.abandoned hsource (Nat.le_add_right _ _) (by rintro l ⟨⟩) hanswer
  | some late =>
    have hover := (h.passes_advance _).abandoned hsource (Nat.le_add_right _ _)
      (within_late s setting late.span) hanswer
    rw [answerLate, h.orderly.track_answered_over (by rw [hover]; rfl) late.reply, hover]

section
variable {token : BearerToken}
  (hanswer : setting.source ⟨0, setting.config.sendsAt s.now, s.environment⟩ = .ok token)
include hanswer

/-- Nothing comes back late: the trigger is over with the result of its exchange, or, without a time
limit, it is held for ever. -/
theorem exchanged_none :
    Exchanged setting s.now action token
      (setting.endpoint.exchange setting.config (setting.config.sendsAt s.now) token action)
      ((s.waitIdle setting none).1.panel.track 0) := by
  rcases h.passes_waitIdle.exchanged hsource (Nat.le_add_right _ _) (by rintro l ⟨⟩) hanswer with
    ⟨u, result, hresult, -, hlast⟩ | ⟨hheld, hlast, hnever⟩
  · exact .inl ⟨u, result, hresult, hlast⟩
  · have hnone : setting.config.requestTimeout = none := by
      cases htimeout : setting.config.requestTimeout with
      | none => rfl
      | some timeout =>
        refine absurd ?_ (hnever _ (congrArg (Option.map _) htimeout))
        rintro l ⟨⟩
    exact .inr ⟨(result?_of_held hheld).trans (congrArg (Option.map _) hnone), hlast⟩

/-- Something comes back late: it is the result if the request is held and the client has not given
up by then. -/
theorem exchanged_some (late : LateReply) :
    Exchanged setting s.now action token
      (exchangeLate (some late) setting.endpoint setting.config (setting.config.sendsAt s.now) token
        action)
      (((answerLate setting action s (some late)).waitIdle setting none).1.panel.track 0) := by
  simp only [exchangeLate, answerLate]
  rcases (h.passes_advance _).exchanged hsource (Nat.le_add_right _ _)
    (within_late s setting late.span) hanswer with
    ⟨u, result, hresult, hlimit, hlast⟩ | ⟨hheld, hlast, hnever⟩
  · rw [if_neg, h.orderly.track_answered_over (by rw [hlast]; rfl) late.reply]
    · exact .inl ⟨u, result, hresult, hlast⟩
    · rintro ⟨hheld, hin⟩
      obtain ⟨d, hd, hwithin⟩ := hlimit hheld
      exact (inTime_iff s setting late).1 hin d hd hwithin
  · rw [if_pos ⟨hheld, (inTime_iff s setting late).2 hnever⟩]
    have hsent := hlast
    rw [hheld] at hsent
    have hended := h.orderly.track_answered_held (congrArg Track.tasks hsent) late.reply
    rw [hlast] at hended
    exact .inl ⟨_, _, rfl, hended⟩

theorem exchanged (late : Option LateReply) :
    Exchanged setting s.now action token
      (exchangeLate late setting.endpoint setting.config (setting.config.sendsAt s.now) token
        action)
      (((answerLate setting action s late).waitIdle setting none).1.panel.track 0) := by
  cases late with
  | none => exact h.exchanged_none hsource hanswer
  | some late => exact h.exchanged_some hsource hanswer late

end

end

end JustTriggered

end PersonGate.Cli
