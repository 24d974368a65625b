import PersonGate.Proofs.Panel.Ledger
import PersonGate.Proofs.Panel.Moment
/-!
# Triggers keep their times

A trigger made at an instant asks for its token and sends its request at the very instant at which
its wait is over: its `Timeline`. A track is `OnTime` if it has this timeline and nothing of it is
late. No moment of the trigger changes that, so it stays while time passes (`OnTime.passes`), and in
a session it holds of all triggers at once (`Orderly.after`). A step that lets tasks run leaves no
trigger behind whose wait is over (`lt_wakesAt?_step`). The module ends in `trigger_punctual`.
-/
namespace PersonGate

/-- The instant at which the wait of a trigger is over. -/
def ClientConfig.sendsAt (config : ClientConfig) (t : Nat) : Nat :=
  t + config.actionDelay.nanoseconds

namespace ActionPanel

/-- What happened by a phase to a trigger made at an instant, and when. -/
inductive Timeline (config : ClientConfig) (t : Nat) (action : PersonAction) :
    TaskPhase → History → Prop
  | waiting : Timeline config t action (.waiting (config.sendsAt t)) [(t, .scheduled action)]
  | abandoned (cause : TokenError) :
    Timeline config t action .finished
      [(t, .scheduled action), (config.sendsAt t, .sending),
        (config.sendsAt t, .tokenCall (.error cause)), (config.sendsAt t, .finished .failed)]
  | held (token : BearerToken) :
    Timeline config t action (.inFlight (deadline config (config.sendsAt t)) .held)
      [(t, .scheduled action), (config.sendsAt t, .sending),
        (config.sendsAt t, .tokenCall (.ok token)),
        (config.sendsAt t, .attempt (config.request token action) true)]
  | ended (token : BearerToken) (arrived : Bool) {u : Nat} (h : config.sendsAt t ≤ u)
    (result : Except TransportError Http.Status) :
    Timeline config t action .finished
      [(t, .scheduled action), (config.sendsAt t, .sending),
        (config.sendsAt t, .tokenCall (.ok token)),
        (config.sendsAt t, .attempt (config.request token action) arrived), (u, .ended result),
        (u, .finished (.ofOutcome (.ofResult result))), (u, .notified (.ofResult result))]

theorem le_of_deadline {config : ClientConfig} {instant u : Nat}
    (h : deadline config instant = some u) : instant ≤ u := by
  obtain ⟨limit, -, rfl⟩ := Option.map_eq_some_iff.1 h
  exact Nat.le_add_right _ _

/-- A trigger made at an instant has kept its times so far, and is not late for what is to come. -/
structure OnTime (config : ClientConfig) (t : Nat) (action : PersonAction) (live : Bool) (now : Nat)
    (phase : TaskPhase) (track : Track) : Prop where
  timeline : Timeline config t action phase track.history
  /-- Its task is there until it is over, or until the panel is gone. -/
  tasks : track.tasks = if live && !phase.isFinished then [(action, phase)] else []
  past : ∀ entry ∈ track.history, entry.1 ≤ now
  ahead : ∀ w, track.wakesAt? = some w → now ≤ w

namespace OnTime
variable {config : ClientConfig} {t now : Nat} {action : PersonAction} {live : Bool}
  {phase : TaskPhase} {track : Track}

theorem abandoned (cause : TokenError) :
    OnTime config t action live (config.sendsAt t) .finished
      ⟨[], [(t, .scheduled action), (config.sendsAt t, .sending),
        (config.sendsAt t, .tokenCall (.error cause)), (config.sendsAt t, .finished .failed)]⟩ where
  timeline := .abandoned cause
  tasks := by simp [TaskPhase.isFinished]
  past := by simp [ClientConfig.sendsAt]
  ahead := by rintro w ⟨⟩

theorem ended (token : BearerToken) (arrived : Bool) {u : Nat} (h : config.sendsAt t ≤ u)
    (result : Except TransportError Http.Status) :
    OnTime config t action live u .finished
      (Track.resolve ⟨[], [(t, .scheduled action), (config.sendsAt t, .sending),
        (config.sendsAt t, .tokenCall (.ok token)),
        (config.sendsAt t, .attempt (config.request token action) arrived)]⟩ u result) where
  timeline := .ended token arrived h result
  tasks := by simp [TaskPhase.isFinished, Track.resolve]
  past := by
    have ht : t ≤ u := Nat.le_trans (Nat.le_add_right _ _) h
    simp [Track.resolve, h, ht]
  ahead := by rintro w ⟨⟩

theorem resting (h : OnTime config t action live now phase track) : track.Resting := by
  obtain ⟨tasks, history⟩ := track
  obtain ⟨htimeline, rfl, -, -⟩ := h
  cases live with
  | false => exact .done _
  | true => cases htimeline <;> constructor

theorem later (h : OnTime config t action live now phase track) {instant : Nat}
    (hle : now ≤ instant) (hahead : ∀ w, track.wakesAt? = some w → instant ≤ w) :
    OnTime config t action live instant phase track :=
  { h with past := fun entry he => Nat.le_trans (h.past entry he) hle, ahead := hahead }

/-- A trigger whose request is in flight keeps its times also when the request ends. -/
theorem resolve {other : PersonAction} {limit : Option Nat} {reception : Reception}
    (h : OnTime config t action live now phase track)
    (htasks : track.tasks = [(other, .inFlight limit reception)]) {u : Nat} (hle : now ≤ u)
    (result : Except TransportError Http.Status) :
    OnTime config t action live u .finished (track.resolve u result) := by
  obtain ⟨tasks, history⟩ := track
  obtain ⟨htimeline, rfl, hpast, -⟩ := h
  cases live with
  | false => cases htasks
  | true =>
    cases htimeline with
    | waiting => cases htasks
    | abandoned cause => cases htasks
    | ended token arrived h result => cases htasks
    | held token =>
      have hsent : config.sendsAt t ≤ now := hpast (config.sendsAt t, .sending) (by simp)
      exact ended token true (Nat.le_trans hsent hle) result

/-- A trigger keeps its times also at the next instant that is its own. -/
theorem moment {setting : PanelSetting}
    (h : OnTime setting.config t action live now phase track) {w : Nat}
    (hw : track.wakesAt? = some w) (answer : Except TokenError BearerToken) :
    ∃ phase', OnTime setting.config t action live w phase' (track.moment setting w answer) := by
  have hahead : now ≤ w := h.ahead w hw
  obtain ⟨tasks, history⟩ := track
  have htasks := h.tasks
  cases live with
  | false =>
    obtain rfl : tasks = [] := htasks
    cases hw
  | true =>
    cases h.timeline with
    | abandoned cause =>
      obtain rfl : tasks = [] := htasks
      cases hw
    | ended token arrived h result =>
      obtain rfl : tasks = [] := htasks
      cases hw
    | held token =>
      obtain rfl : tasks = [(action, _)] := htasks
      exact ⟨_, h.resolve rfl hahead (.error .timedOut)⟩
    | waiting =>
      obtain rfl : tasks = [(action, _)] := htasks
      obtain rfl : setting.config.sendsAt t = w := Option.some.inj hw
      cases answer with
      | error cause => exact ⟨_, abandoned cause⟩
      | ok token =>
        simp only [Track.moment, Track.wake, Track.dispatch]
        cases setting.endpoint.receive (setting.config.sendsAt t)
          (setting.config.request token action) with
        | refused => exact ⟨_, ended token false (Nat.le_refl _) _⟩
        | answered reply => exact ⟨_, ended token true (Nat.le_refl _) _⟩
        | held =>
          refine ⟨_, .held token, rfl, ?_, fun u hu => le_of_deadline hu⟩
          simp [Track.deliver, ClientConfig.sendsAt]

/-- A trigger keeps its times while time passes up to an instant. -/
theorem passes {setting : PanelSetting} {environment : Environment} {l : Nat} {last : Track}
    (hpasses : TimedPanel.Passes setting environment (some l) now track last)
    (h : OnTime setting.config t action live now phase track) (hle : now ≤ l) :
    ∃ phase', OnTime setting.config t action live l phase' last := by
  generalize hlimit : some l = limit at hpasses
  induction hpasses generalizing phase with
  | rest hrest =>
    subst hlimit
    refine ⟨phase, h.later hle fun w hw => ?_⟩
    exact Nat.le_of_not_le (mt TimedPanel.within_some.2 (hrest w hw))
  | moment index hw hwithin _ ih =>
    have hahead := h.ahead _ hw
    rw [Nat.max_eq_right hahead] at ih
    obtain ⟨phase', hmoment⟩ := h.moment hw _
    exact ih hmoment (hwithin l hlimit.symm)

end OnTime

end ActionPanel

/-! ## Sessions -/

namespace TimedPanel
open ActionPanel

/-- The trigger with this number was made at an instant and has kept its times so far. -/
def Timely (config : ClientConfig) (t : Nat) (action : PersonAction) (id : Nat) (s : TimedPanel) :
    Prop :=
  ∃ phase, OnTime config t action s.live s.now phase (s.panel.track id)

variable {setting : PanelSetting} {horizon : Option Nat} {s : TimedPanel} {id : Nat}

theorem passes_advance (hrest : (s.panel.track id).Resting) (setting : PanelSetting) (span : Nat) :
    Passes setting s.environment (some (s.now + span)) s.now (s.panel.track id)
      ((s.advance setting span).panel.track id) :=
  passes_runUntil setting (within_some.2 (Nat.le_add_right _ _)) hrest

/-- A request that is held is all that there is before its trigger. -/
theorem track_of_held? (hrest : ∀ id, (s.panel.track id).Resting) {method : Http.Method}
    {task : Task} (h : s.held? method = some task) :
    task.action.method = method ∧
      ∃ limit, (s.panel.track task.id).tasks = [(task.action, .inFlight limit .held)] := by
  have hmem := List.mem_of_find?_eq_some h
  obtain ⟨hmethod, hflight, -⟩ : task.action.method = method ∧ task.phase.isInFlight = true ∧
      (reply? task).isNone = true := by simpa using List.find?_some h
  obtain ⟨limit, reception, hphase⟩ := TaskPhase.eq_inFlight hflight
  have hopen : (task.action, task.phase) ∈ (s.panel.track task.id).tasks :=
    List.mem_filterMap.2 ⟨task, hmem, by simp [open?, hphase, TaskPhase.isFinished]⟩
  refine ⟨hmethod, ?_⟩
  rw [hphase] at hopen
  have hone := hrest task.id
  generalize s.panel.track task.id = track at hopen hone
  cases hone with
  | done history => cases hopen
  | waiting action due history => simp at hopen
  | held action deadline history =>
    obtain ⟨rfl, -, -⟩ : task.action = action ∧ limit = deadline ∧ reception = .held := by
      simpa using hopen
    exact ⟨deadline, rfl⟩

/-- A request that is held is found by its method, or one before it is. -/
theorem isSome_held? {action : PersonAction} {limit : Option Nat}
    (h : (action, .inFlight limit .held) ∈ (s.panel.track id).tasks) :
    (s.held? action.method).isSome = true := by
  obtain ⟨own, hown, hopen⟩ := List.mem_filterMap.1 h
  obtain ⟨-, haction, hphase⟩ := open?_eq_some hopen
  exact List.find?_isSome.2
    ⟨own, hown, by simp [haction, hphase, TaskPhase.isInFlight, reply?]⟩

/-! ### A trigger in a session -/

namespace Timely
variable {config : ClientConfig} {t : Nat} {action : PersonAction}

theorem congr (h : Timely config t action id s) {next : TimedPanel} (hlive : next.live = s.live)
    (hnow : next.now = s.now) (htrack : next.panel.track id = s.panel.track id) :
    Timely config t action id next := by
  rw [Timely, hlive, hnow, htrack]
  exact h

theorem advance (h : Timely setting.config t action id s) (span : Nat) :
    Timely setting.config t action id (s.advance setting span) := by
  obtain ⟨phase, hphase⟩ := h
  rw [Timely, live_advance]
  exact hphase.passes (passes_advance hphase.resting setting span) (Nat.le_add_right _ _)

theorem resolve (h : Timely config t action id s) {other : Nat} {someAction : PersonAction}
    {limit : Option Nat} {reception : Reception}
    (htasks : (s.panel.track other).tasks = [(someAction, .inFlight limit reception)])
    (result : Except TransportError Http.Status) :
    Timely config t action id { s with panel := s.panel.resolve s.now other result } := by
  by_cases hid : id = other
  · subst hid
    obtain ⟨phase, hphase⟩ := h
    refine ⟨.finished, ?_⟩
    rw [track_resolve (Track.eq_mk htasks)]
    exact hphase.resolve htasks (Nat.le_refl _) result
  · exact h.congr rfl rfl (track_resolve_other hid _ _ _)

theorem drop (h : Timely config t action id s) : Timely config t action id s.drop := by
  obtain ⟨phase, hphase⟩ := h
  exact ⟨phase, hphase.timeline, rfl, hphase.past, by rintro w ⟨⟩⟩

end Timely

/-- Every trigger that was made keeps its times, and nothing is known of those to come. -/
structure Orderly (config : ClientConfig) (made : List (Nat × PersonAction)) (s : TimedPanel) :
    Prop where
  count : s.panel.triggers = made.length
  fresh : ∀ id, made.length ≤ id → s.panel.track id = {}
  timely : ∀ id t action, made[id]? = some (t, action) → Timely config t action id s

namespace Orderly
variable {config : ClientConfig} {made : List (Nat × PersonAction)}

theorem start (config : ClientConfig) (environment : Environment) :
    Orderly config [] { environment } where
  count := rfl
  fresh := fun _ _ => rfl
  timely := by simp

theorem resting (h : Orderly config made s) (id : Nat) : (s.panel.track id).Resting := by
  rcases Nat.lt_or_ge id made.length with hid | hid
  · obtain ⟨phase, hphase⟩ := h.timely id _ _ (List.getElem?_eq_getElem hid)
    exact hphase.resting
  · rw [h.fresh id hid]
    exact .done []

theorem congr (h : Orderly config made s) {next : TimedPanel} (hlive : next.live = s.live)
    (hnow : next.now = s.now) (htriggers : next.panel.triggers = s.panel.triggers)
    (htrack : ∀ id, next.panel.track id = s.panel.track id) : Orderly config made next where
  count := htriggers.trans h.count
  fresh := fun id hid => (htrack id).trans (h.fresh id hid)
  timely := fun id t action hmade => (h.timely id t action hmade).congr hlive hnow (htrack id)

theorem trigger (h : Orderly setting.config made s) (hlive : s.live = true)
    (action : PersonAction) :
    Orderly setting.config (made ++ [(s.now, action)]) (s.trigger setting action) := by
  have hother : ∀ id, id ≠ made.length →
      (s.trigger setting action).panel.track id = s.panel.track id :=
    fun id hid => track_schedule_other (by rwa [h.count]) _ _ _
  constructor
  case count =>
    show s.panel.triggers + 1 = _
    rw [h.count, List.length_append, List.length_singleton]
  case fresh =>
    intro id hid
    rw [List.length_append, List.length_singleton] at hid
    rw [hother id (by omega), h.fresh id (by omega)]
  case timely =>
    intro id t other hmade
    rcases Nat.lt_trichotomy id made.length with hid | rfl | hid
    · rw [List.getElem?_append_left hid] at hmade
      exact (h.timely id t other hmade).congr rfl rfl (hother id (Nat.ne_of_lt hid))
    · obtain ⟨rfl, rfl⟩ : s.now = t ∧ action = other := by simpa using hmade
      have hfresh : s.panel.track s.panel.triggers = {} := h.fresh _ (Nat.le_of_eq h.count.symm)
      have hnew := track_schedule_self hfresh s.now
        (s.now + setting.config.actionDelay.nanoseconds) action
      rw [h.count] at hnew
      refine ⟨.waiting (setting.config.sendsAt s.now), ?_⟩
      show OnTime setting.config s.now action s.live s.now _ ((s.panel.schedule _ _ _).track _)
      rw [hnew, hlive]
      refine ⟨.waiting, rfl, by simp, ?_⟩
      rintro w ⟨⟩
      exact Nat.le_add_right _ _
    · rw [List.getElem?_eq_none (by simp; omega)] at hmade
      cases hmade

theorem advance (h : Orderly setting.config made s) (span : Nat) :
    Orderly setting.config made (s.advance setting span) where
  count := (triggers_advance setting s span).trans h.count
  fresh := by
    intro id hid
    have hpasses := passes_advance (h.resting id) setting span
    rw [h.fresh id hid] at hpasses
    exact hpasses.eq_of_wakesAt?_eq_none rfl
  timely := fun id t action hmade => (h.timely id t action hmade).advance span

theorem reply (h : Orderly setting.config made s) (action : PersonAction) (reply : Reply) :
    Orderly setting.config made (s.reply setting action reply).1 := by
  have hready := h.advance 0
  rw [reply_eq]
  split
  · exact hready
  · rename_i task hheld
    obtain ⟨-, limit, htasks⟩ := track_of_held? hready.resting hheld
    constructor
    case count =>
      exact (triggers_resolve _ _ _ _).trans hready.count
    case fresh =>
      intro id hid
      have hother : id ≠ task.id := by
        rintro rfl
        rw [hready.fresh _ hid] at htasks
        cases htasks
      exact (track_resolve_other hother _ _ _).trans (hready.fresh id hid)
    case timely =>
      exact fun id t action hmade => (hready.timely id t action hmade).resolve htasks _

theorem waitIdle (h : Orderly setting.config made s) (horizon : Option Nat) :
    Orderly setting.config made (s.waitIdle setting horizon).1 := by
  obtain ⟨span, hreaped, -⟩ := waitIdle_eq setting s horizon
  rw [hreaped]
  exact (h.advance span).congr rfl rfl rfl fun id => track_collect _ _ id

theorem drop (h : Orderly config made s) : Orderly config made s.drop where
  count := h.count
  fresh := by
    intro id hid
    show s.panel.release.track id = {}
    rw [track_release, h.fresh id hid]
  timely := fun id t action hmade => (h.timely id t action hmade).drop

/-- A step makes at most one more trigger, and all keep their times. -/
theorem step (h : Orderly setting.config made s) (horizon : Option Nat) (step : Step) :
    ∃ more, Orderly setting.config (made ++ more) (s.step setting horizon step).1 := by
  have hsame : ∀ next, Orderly setting.config made next →
      ∃ more, Orderly setting.config (made ++ more) next :=
    fun next hnext => ⟨[], by rwa [List.append_nil]⟩
  cases step with
  | advance span => exact hsame _ (h.advance span)
  | reply action reply => exact hsame _ (h.reply action reply)
  | setVariable name value => exact hsame _ (h.congr rfl rfl rfl fun _ => rfl)
  | unsetVariable name => exact hsame _ (h.congr rfl rfl rfl fun _ => rfl)
  | trigger action =>
    cases hlive : s.live with
    | true =>
      simp only [TimedPanel.step, hlive, if_true]
      exact ⟨_, h.trigger hlive action⟩
    | false =>
      simp only [TimedPanel.step, hlive, Bool.false_eq_true, if_false]
      exact hsame _ h
  | waitIdle =>
    rcases step_waitIdle setting horizon s with hstep | hstep | hstep <;> rw [hstep]
    · exact hsame _ (h.waitIdle horizon)
    · exact hsame _ (settle_eq_advance setting s horizon ▸ h.advance _)
    · exact hsame _ h
  | render =>
    simp only [TimedPanel.step]
    split <;> exact hsame _ h
  | teardown =>
    simp only [TimedPanel.step]
    split
    · exact hsame _ (h.drop.congr rfl rfl rfl fun _ => rfl)
    · exact hsame _ h
  | drop =>
    simp only [TimedPanel.step]
    split
    · exact hsame _ h.drop
    · exact hsame _ h

theorem after (h : Orderly setting.config made s) (horizon : Option Nat) (steps : List Step) :
    ∃ more, Orderly setting.config (made ++ more) (s.after setting horizon steps) := by
  induction steps generalizing made s with
  | nil => exact ⟨[], by rwa [List.append_nil]⟩
  | cons step rest ih =>
    obtain ⟨first, hfirst⟩ := h.step horizon step
    obtain ⟨more, hmore⟩ := ih hfirst
    exact ⟨first ++ more, by rwa [← List.append_assoc]⟩

end Orderly

/-! ### No trigger is left behind -/

/-- Does the step let tasks run? -/
def Step.runs : Step → Bool
  | .advance _ | .reply _ _ | .waitIdle => true
  | _ => false

/-- After a step that lets tasks run, everything that is still to come is later. -/
theorem lt_wakesAt?_step {made : List (Nat × PersonAction)} (h : Orderly setting.config made s)
    (horizon : Option Nat) {step : Step} (hruns : step.runs = true)
    (hlive : (s.step setting horizon step).1.live = true) {w : Nat}
    (hw : ((s.step setting horizon step).1.panel.track id).wakesAt? = some w) :
    (s.step setting horizon step).1.now < w := by
  have hadvance : ∀ span w, ((s.advance setting span).panel.track id).wakesAt? = some w →
      s.now + span < w := fun span w hw =>
    Nat.lt_of_not_le (mt within_some.2 ((passes_advance (h.resting id) setting span).after hw))
  cases step with
  | advance span => exact hadvance span w hw
  | reply action reply =>
    simp only [TimedPanel.step, reply_eq] at hw ⊢
    split at hw
    · exact hadvance 0 w hw
    · rename_i task hheld
      obtain ⟨-, limit, htasks⟩ := track_of_held? (h.advance 0).resting hheld
      by_cases hid : id = task.id
      · subst hid
        rw [track_resolve (Track.eq_mk htasks)] at hw
        cases hw
      · rw [track_resolve_other hid] at hw
        exact hadvance 0 w hw
  | waitIdle =>
    obtain ⟨span, -, hstep⟩ := waitIdle_eq setting s horizon
    rcases hstep (live_of_live_step hlive) with hsame | hreaped
    · rw [hsame] at hw ⊢
      exact hadvance span w hw
    · rw [hreaped] at hw ⊢
      rw [ActionPanel.reap, track_collect] at hw
      exact hadvance span w hw
  | _ => cases hruns

/-- What a trigger has before it is not in the past, and it is in the future once tasks were let
run. -/
theorem Orderly.ahead_after {made : List (Nat × PersonAction)}
    (hs : Orderly setting.config made s) {steps : List Step}
    (hlive : (s.after setting horizon steps).live = true) {id w : Nat}
    (hw : ((s.after setting horizon steps).panel.track id).wakesAt? = some w) :
    (s.after setting horizon steps).now ≤ w ∧
      ∀ first step, steps = first ++ [step] → step.runs = true →
        (s.after setting horizon steps).now < w := by
  constructor
  · obtain ⟨more, hafter⟩ := hs.after horizon steps
    rcases Nat.lt_or_ge id (made ++ more).length with hid | hid
    · obtain ⟨_, htime⟩ := hafter.timely id _ _ (List.getElem?_eq_getElem hid)
      exact htime.ahead w hw
    · rw [hafter.fresh id hid] at hw
      cases hw
  · rintro first step rfl hruns
    obtain ⟨_, hfirst⟩ := hs.after horizon first
    rw [after_append] at hlive hw ⊢
    exact lt_wakesAt?_step hfirst horizon hruns hlive hw

/-- What happened to a trigger stays. -/
theorem history_prefix_after (setting : PanelSetting) (horizon : Option Nat) (s : TimedPanel)
    (id : Nat) (steps : List Step) :
    ∃ news, historyOf (s.after setting horizon steps).panel.log id =
      historyOf s.panel.log id ++ news := by
  obtain ⟨more, hlog⟩ := log_prefix_after setting horizon s steps
  exact ⟨historyOf more id, by rw [← hlog, historyOf_append]⟩

/-- A trigger that is not any more to wake at the end of its wait has asked for its token. -/
theorem Timely.called {config : ClientConfig} {t : Nat} {action : PersonAction}
    (h : Timely config t action id s) (hlive : s.live = true)
    (hwoken : (s.panel.track id).wakesAt? ≠ some (config.sendsAt t)) :
    ∃ answer, (config.sendsAt t, .tokenCall answer) ∈ historyOf s.panel.log id := by
  obtain ⟨phase, htimeline, htasks, -, -⟩ := h
  change Timeline config t action phase (historyOf s.panel.log id) at htimeline
  generalize historyOf s.panel.log id = history at htimeline
  cases htimeline with
  | waiting =>
    rw [hlive] at htasks
    refine absurd ?_ hwoken
    rw [Track.wakesAt?, htasks]
    rfl
  | abandoned cause => exact ⟨.error cause, by simp⟩
  | held token => exact ⟨.ok token, by simp⟩
  | ended token arrived h result => exact ⟨.ok token, by simp⟩

/-- A trigger keeps its times, whatever is done after it. It has asked for its token once the clock
is past the end of its wait, or stands there and the last step has let tasks run, while the panel is
there. -/
theorem trigger_punctual {made : List (Nat × PersonAction)} (h : Orderly setting.config made s)
    (hlive : s.live = true) (horizon : Option Nat) (action : PersonAction) (later : List Step) :
    let sends := setting.config.sendsAt s.now
    let final := s.after setting horizon (.trigger action :: later)
    let history := historyOf final.panel.log s.panel.triggers
    (∃ phase, Timeline setting.config s.now action phase history) ∧
    (∀ entry ∈ history, entry.1 ≤ final.now) ∧
    ∀ more rest, later = more ++ rest →
      let reached := s.after setting horizon (.trigger action :: more)
      reached.live = true →
      sends < reached.now ∨ sends = reached.now ∧ (∃ step ∈ more.getLast?, step.runs = true) →
      ∃ answer, (sends, .tokenCall answer) ∈ history := by
  have htimely : ∀ steps, Timely setting.config s.now action s.panel.triggers
      (s.after setting horizon (.trigger action :: steps)) := by
    intro steps
    obtain ⟨more, hmore⟩ := (h.trigger hlive action).after horizon steps
    have hstep : (s.step setting horizon (.trigger action)).1 = s.trigger setting action := by
      simp only [TimedPanel.step, hlive, if_true]
    rw [← hstep] at hmore
    exact hmore.timely _ _ _ (by simp [h.count])
  intro sends final history
  obtain ⟨phase, htimeline, -, hpast, -⟩ := htimely later
  refine ⟨⟨phase, htimeline⟩, hpast, ?_⟩
  rintro more rest rfl reached hreached hover
  have hwoken : (reached.panel.track s.panel.triggers).wakesAt? ≠ some sends := by
    intro hw
    obtain ⟨hle, hlt⟩ := h.ahead_after hreached hw
    rcases hover with hpassed | ⟨hnow, step, hlast, hruns⟩
    · exact absurd hle (Nat.not_le.2 hpassed)
    · obtain ⟨first, rfl⟩ := List.getLast?_eq_some_iff.1 hlast
      exact Nat.ne_of_gt (hlt (.trigger action :: first) step rfl hruns) hnow
  obtain ⟨answer, hmem⟩ := (htimely more).called hreached hwoken
  obtain ⟨news, hnews⟩ := history_prefix_after setting horizon reached s.panel.triggers rest
  have hfinal : final = reached.after setting horizon rest :=
    after_append setting horizon s (.trigger action :: more) rest
  refine ⟨answer, ?_⟩
  show _ ∈ historyOf final.panel.log _
  rw [hfinal, hnews]
  exact List.mem_append_left _ hmem

end TimedPanel
end PersonGate
