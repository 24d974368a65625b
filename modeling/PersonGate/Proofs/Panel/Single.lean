import PersonGate.Proofs.Panel.Punctual
/-!
# A panel with one trigger

With one trigger a panel is its track: the log, and whether the panel has come to rest, can be read
off it (`Orderly.readings_eq`, `Orderly.isIdle_iff`). Such a trigger waits, and at the end of its
wait it is over or its request is held (`moment_triggered`). From then on there are two things to
happen to it, its time limit and a late reply; with neither it is held for ever.
-/
namespace PersonGate
namespace ActionPanel

/-- At rest the panel shows the last result. -/
theorem Coherent.status_of_finished {config : ClientConfig} {panel : ActionPanel}
    (h : Coherent config panel) (hall : ∀ task ∈ panel.tasks, task.phase = .finished) :
    panel.status = (lastResult? panel.log).getD .idle := by
  have hcount : ∀ p : TaskPhase → Bool, p .finished = false →
      (panel.tasks.countP fun task => p task.phase) = 0 := by
    intro p hp
    rw [List.countP_eq_zero]
    exact fun task hmem => by simp [hall task hmem, hp]
  rw [h.shown, Activity.status, h.pending, h.inFlight, hcount _ rfl, hcount _ rfl, h.last]
  rfl

namespace Track

/-- Whatever of one kind has happened to a trigger, in order. -/
def readings {α : Type} (read : TaskEvent → Option α) (track : Track) : List α :=
  track.history.filterMap fun entry => read entry.2

/-- A trigger whose wait is not over. -/
def triggered (config : ClientConfig) (t : Nat) (action : PersonAction) : Track :=
  ⟨[(action, .waiting (config.sendsAt t))], [(t, .scheduled action)]⟩

/-- A trigger for which there was no token. -/
def abandoned (config : ClientConfig) (t : Nat) (action : PersonAction) (cause : TokenError) :
    Track :=
  ⟨[], [(t, .scheduled action), (config.sendsAt t, .sending),
    (config.sendsAt t, .tokenCall (.error cause)), (config.sendsAt t, .finished .failed)]⟩

/-- A trigger whose request is on its way. -/
def sent (config : ClientConfig) (t : Nat) (action : PersonAction) (token : BearerToken)
    (reception : Reception) : Track :=
  ⟨[(action, .inFlight (deadline config (config.sendsAt t)) reception)],
    [(t, .scheduled action), (config.sendsAt t, .sending),
      (config.sendsAt t, .tokenCall (.ok token)),
      (config.sendsAt t, .attempt (config.request token action) reception.arrives)]⟩

section
variable (config : ClientConfig) (t : Nat) (action : PersonAction) (token : BearerToken)
  (reception : Reception) (u : Nat) (result : Except TransportError Http.Status)

theorem arrived_sent :
    (sent config t action token reception).readings TaskEvent.arrived? =
      if reception.arrives then [config.request token action] else [] := by
  cases reception <;> rfl

theorem arrived_ended :
    ((sent config t action token reception).resolve u result).readings TaskEvent.arrived? =
      if reception.arrives then [config.request token action] else [] := by
  cases reception <;> rfl

theorem outcomes_ended :
    ((sent config t action token reception).resolve u result).readings TaskEvent.notice? =
      [.ofResult result] := rfl

theorem results_ended :
    ((sent config t action token reception).resolve u result).readings TaskEvent.result? =
      [.ofOutcome (.ofResult result)] := rfl

end

/-- What the end of its wait makes of a trigger. -/
theorem moment_triggered (setting : PanelSetting) (t : Nat) (action : PersonAction)
    (answer : Except TokenError BearerToken) :
    let sends := setting.config.sendsAt t
    (triggered setting.config t action).moment setting sends answer =
      match answer with
      | .error cause => abandoned setting.config t action cause
      | .ok token =>
        let sent := sent setting.config t action token
        match setting.endpoint.receive sends (setting.config.request token action) with
        | .refused => (sent .refused).resolve sends (.error .broken)
        | .answered reply => (sent (.answered reply)).resolve sends reply.result
        | .held => sent .held := by
  intro sends
  cases answer with
  | error cause => rfl
  | ok token =>
    simp only [moment, wake, triggered, dispatch]
    cases setting.endpoint.receive sends (setting.config.request token action) <;> rfl

end Track
end ActionPanel

namespace TimedPanel
open ActionPanel

/-! ## Time passes for one trigger -/

namespace Passes
variable {setting : PanelSetting} {environment : Environment} {limit : Option Nat} {now t : Nat}
  {action : PersonAction} {last : Track}

/-- A trigger does not stay before the end of its wait. -/
theorem of_triggered
    (h : Passes setting environment limit now (Track.triggered setting.config t action) last)
    (hsource : setting.source.DependsOnTime) (hnow : now ≤ setting.config.sendsAt t)
    (hlimit : Within limit (setting.config.sendsAt t)) (index : Nat) :
    Passes setting environment limit (setting.config.sendsAt t)
      ((Track.triggered setting.config t action).moment setting (setting.config.sendsAt t)
        (setting.source ⟨index, setting.config.sendsAt t, environment⟩)) last := by
  cases h with
  | rest hrest => exact absurd hlimit (hrest _ rfl)
  | moment other hw _ hpasses =>
    obtain rfl := Option.some.inj hw
    rw [Nat.max_eq_right hnow] at hpasses
    rwa [hsource ⟨index, _, _⟩ ⟨other, _, _⟩ rfl rfl]

/-- Without a token a trigger is over at the end of its wait. -/
theorem abandoned
    (h : Passes setting environment limit now (Track.triggered setting.config t action) last)
    (hsource : setting.source.DependsOnTime) (hnow : now ≤ setting.config.sendsAt t)
    (hlimit : Within limit (setting.config.sendsAt t)) {index : Nat} {cause : TokenError}
    (hanswer : setting.source ⟨index, setting.config.sendsAt t, environment⟩ = .error cause) :
    last = Track.abandoned setting.config t action cause := by
  have hpasses := h.of_triggered hsource hnow hlimit index
  rw [hanswer, Track.moment_triggered] at hpasses
  exact hpasses.eq_of_wakesAt?_eq_none rfl

/-- With a token the exchange of a trigger comes to its end, unless the request is held and its time
limit is after the limit. -/
theorem exchanged
    (h : Passes setting environment limit now (Track.triggered setting.config t action) last)
    (hsource : setting.source.DependsOnTime) (hnow : now ≤ setting.config.sendsAt t)
    (hlimit : Within limit (setting.config.sendsAt t)) {index : Nat} {token : BearerToken}
    (hanswer : setting.source ⟨index, setting.config.sendsAt t, environment⟩ = .ok token) :
    let sends := setting.config.sendsAt t
    let reception := setting.endpoint.receive sends (setting.config.request token action)
    let sent := Track.sent setting.config t action token reception
    (∃ u result,
      (setting.endpoint.exchange setting.config sends token action).result? = some result ∧
        (reception = .held → ∃ d, deadline setting.config sends = some d ∧ Within limit d) ∧
        last = sent.resolve u result) ∨
      reception = .held ∧ last = sent ∧
        ∀ d, deadline setting.config sends = some d → ¬Within limit d := by
  intro sends reception sent
  have hpasses := h.of_triggered hsource hnow hlimit index
  rw [hanswer, Track.moment_triggered] at hpasses
  simp only [sent, reception, Endpoint.exchange]
  cases hreception : setting.endpoint.receive sends (setting.config.request token action) with
  | refused =>
    simp only [sends, hreception] at hpasses
    exact .inl ⟨_, _, rfl, (by rintro ⟨⟩), hpasses.eq_of_wakesAt?_eq_none rfl⟩
  | answered reply =>
    simp only [sends, hreception] at hpasses
    exact .inl ⟨_, _, rfl, (by rintro ⟨⟩), hpasses.eq_of_wakesAt?_eq_none rfl⟩
  | held =>
    simp only [sends, hreception] at hpasses
    cases hpasses with
    | rest hrest => exact .inr ⟨rfl, rfl, hrest⟩
    | moment _ hw hwithin hlast =>
      obtain ⟨timeout, htimeout, -⟩ := Option.map_eq_some_iff.1 hw
      refine .inl ⟨_, .error .timedOut, ?_, fun _ => ⟨_, hw, hwithin⟩,
        hlast.eq_of_wakesAt?_eq_none rfl⟩
      rw [htimeout, Option.map_some]

end Passes

/-! ## Waits -/

theorem track_waitIdle (setting : PanelSetting) (s : TimedPanel) (horizon : Option Nat) (id : Nat) :
    (s.waitIdle setting horizon).1.panel.track id = (s.settle setting horizon).panel.track id :=
  track_collect _ _ id

/-! ## The panel as its one track -/

namespace Orderly
variable {setting : PanelSetting} {config : ClientConfig} {t : Nat} {action : PersonAction}
  {s : TimedPanel}

/-- The first trigger of a panel. -/
theorem first (setting : PanelSetting) (environment : Environment) (action : PersonAction) :
    let s := TimedPanel.trigger setting { environment } action
    Orderly setting.config [(0, action)] s ∧
      s.panel.track 0 = Track.triggered setting.config 0 action :=
  ⟨(Orderly.start setting.config environment).trigger rfl action,
    track_schedule_self rfl 0 (setting.config.sendsAt 0) action⟩

/-- Whatever the log says, it says of the one trigger. -/
theorem readings_eq (h : Orderly config [(t, action)] s) (hlog : Coherent config s.panel)
    {α : Type} (read : TaskEvent → Option α) :
    readings read s.panel.log = (s.panel.track 0).readings read := by
  have hall : entriesOf s.panel.log 0 = s.panel.log := by
    refine List.filter_eq_self.2 fun entry hmem => ?_
    have hknown := hlog.known entry hmem
    rw [h.count, List.length_singleton] at hknown
    simpa using hknown
  show _ = ((entriesOf s.panel.log 0).map _).filterMap _
  rw [hall, List.filterMap_map]
  rfl

/-- The panel is at rest when the one trigger is over. -/
theorem isIdle_iff (h : Orderly config [(t, action)] s) (hlog : Coherent config s.panel) :
    s.isIdle = true ↔ (s.panel.track 0).tasks = [] := by
  show s.panel.tasks.all _ = true ↔ s.panel.tasks.filterMap (open? 0) = []
  rw [List.all_eq_true, List.filterMap_eq_nil_iff]
  refine forall₂_congr fun task hmem => ?_
  have hid := (hlog.present task hmem).1
  rw [h.count, List.length_singleton, Nat.lt_one_iff] at hid
  cases hphase : task.phase.isFinished <;> simp [open?, hid, hphase]

theorem held?_eq_none (h : Orderly config [(t, action)] s) (htasks : (s.panel.track 0).tasks = [])
    (method : Http.Method) : s.held? method = none := by
  cases hheld : s.held? method with
  | none => rfl
  | some task =>
    obtain ⟨-, limit, hown⟩ := track_of_held? h.resting hheld
    rcases Nat.eq_zero_or_pos task.id with hid | hid
    · rw [hid, htasks] at hown
      cases hown
    · rw [h.fresh task.id hid] at hown
      cases hown

theorem exists_held? (h : Orderly config [(t, action)] s) {limit : Option Nat}
    (htasks : (s.panel.track 0).tasks = [(action, .inFlight limit .held)]) :
    ∃ task, s.held? action.method = some task ∧ task.id = 0 := by
  have hmem : (action, .inFlight limit .held) ∈ (s.panel.track 0).tasks := by simp [htasks]
  obtain ⟨task, hheld⟩ := Option.isSome_iff_exists.1 (isSome_held? hmem)
  refine ⟨task, hheld, ?_⟩
  by_contra hid
  obtain ⟨-, _, hother⟩ := track_of_held? h.resting hheld
  rw [h.fresh task.id (Nat.pos_of_ne_zero hid)] at hother
  cases hother

/-- A wait without a horizon lets all time pass for a trigger. -/
theorem passes_waitIdle {made : List (Nat × PersonAction)} (h : Orderly setting.config made s)
    (id : Nat) :
    Passes setting s.environment none s.now (s.panel.track id)
      ((s.waitIdle setting none).1.panel.track id) := by
  rw [track_waitIdle]
  exact passes_runUntil setting (by rintro l ⟨⟩) (h.resting id)

/-- A wait does nothing for a trigger that is over. -/
theorem track_waitIdle_over {made : List (Nat × PersonAction)} (h : Orderly setting.config made s)
    {id : Nat} (htasks : (s.panel.track id).tasks = []) :
    (s.waitIdle setting none).1.panel.track id = s.panel.track id :=
  (h.passes_waitIdle id).eq_of_wakesAt?_eq_none (by rw [Track.wakesAt?, htasks])

/-- A reply comes too late for a trigger that is over. -/
theorem track_answered_over (h : Orderly setting.config [(t, action)] s) {span : Nat}
    (htasks : ((s.advance setting span).panel.track 0).tasks = []) (reply : Reply) :
    (((s.advance setting span).reply setting action reply).1.waitIdle setting none).1.panel.track
      0 = (s.advance setting span).panel.track 0 := by
  have hnone := (h.advance span).held?_eq_none htasks action.method
  have hsame : ((s.advance setting span).reply setting action reply).1 =
      s.advance setting span := by
    rw [reply_eq, advance_advance, Nat.add_zero, hnone]
  rw [hsame, (h.advance span).track_waitIdle_over htasks]

/-- A reply ends a request that is held. -/
theorem track_answered_held (h : Orderly setting.config [(t, action)] s) {span : Nat}
    {limit : Option Nat}
    (htasks : ((s.advance setting span).panel.track 0).tasks = [(action, .inFlight limit .held)])
    (reply : Reply) :
    (((s.advance setting span).reply setting action reply).1.waitIdle setting none).1.panel.track
      0 = ((s.advance setting span).panel.track 0).resolve (s.now + span) reply.result := by
  obtain ⟨task, hheld, hid⟩ := (h.advance span).exists_held? htasks
  have hover : ((s.advance setting span).reply setting action reply).1.panel.track 0 =
      ((s.advance setting span).panel.track 0).resolve (s.now + span) reply.result := by
    rw [reply_eq, advance_advance, Nat.add_zero, hheld]
    simp only [hid]
    exact track_resolve (Track.eq_mk htasks) _ _
  rw [((h.advance span).reply action reply).track_waitIdle_over (by rw [hover]; rfl), hover]

/-- The answer of a wait says whether the one trigger is over. -/
theorem waitIdle_iff (h : Orderly setting.config [(t, action)] s)
    (hlog : Coherent setting.config s.panel) (horizon : Option Nat) :
    (s.waitIdle setting horizon).2 = true ↔
      ((s.waitIdle setting horizon).1.panel.track 0).tasks = [] := by
  have hsettled : Orderly setting.config [(t, action)] (s.settle setting horizon) := by
    rw [settle_eq_advance]
    exact h.advance _
  obtain ⟨moves, hmoves⟩ : Reaches setting.config s.panel (s.settle setting horizon).panel :=
    reaches_runUntil setting _ s
  rw [track_waitIdle]
  exact hsettled.isIdle_iff (hmoves ▸ hlog.play moves)

end Orderly
end TimedPanel
end PersonGate
