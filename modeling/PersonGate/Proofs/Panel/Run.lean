import PersonGate.Panel.Session
import PersonGate.Proofs.Panel.Story
/-!
# Runs of a panel

A `Move` is one step that a panel can take, with everything that the world outside decides about it:
when it happens, which answer the token source gives, what becomes of the request. `play` makes
moves in a row. The moves of different tasks may be mixed in any order, a move that the panel is not
ready for changes nothing, so every list of moves is a run. Every run keeps the panel and its log
together (`coherent_play`). Some moves are those of tasks (`Move.isOfTask`); a run of these alone
(`Works`) makes no trigger and leaves every task in its place.

A panel on a clock takes no other steps: whatever is done to it in a session, as long as it is not
taken down, is a run (`TimedPanel.reaches_after`). While time passes and replies come in, only tasks
move (`works_runUntil`, `works_reply`).
-/
namespace PersonGate

namespace ActionPanel

/-- A step of a panel. -/
inductive Move where
  | schedule (instant due : Nat) (action : PersonAction)
  | begin (instant id : Nat)
  | proceed (receive : SentRequest → Reception) (instant id : Nat)
    (answer : Except TokenError BearerToken)
  | resolve (instant id : Nat) (result : Except TransportError Http.Status)
  /-- A wait for all tasks takes some that have finished off the panel. -/
  | collect (chosen : Nat → Bool)

/-- The panel after a move. -/
def move (config : ClientConfig) (panel : ActionPanel) : Move → ActionPanel
  | .schedule instant due action => panel.schedule instant due action
  | .begin instant id => panel.begin instant id
  | .proceed receive instant id answer => panel.proceed config receive instant id answer
  | .resolve instant id result => panel.resolve instant id result
  | .collect chosen => panel.collect chosen

/-- The panel after some moves in a row. -/
def play (config : ClientConfig) (panel : ActionPanel) (moves : List Move) : ActionPanel :=
  moves.foldl (move config) panel

theorem Coherent.move {config : ClientConfig} {panel : ActionPanel} (h : Coherent config panel)
    (m : Move) : Coherent config (panel.move config m) := by
  cases m with
  | schedule instant due action => exact h.schedule instant due action
  | begin instant id => exact h.begin instant id
  | proceed receive instant id answer => exact h.proceed receive instant id answer
  | resolve instant id result => exact h.resolve instant id result
  | collect chosen => exact h.collect chosen

theorem Coherent.play {config : ClientConfig} {panel : ActionPanel} (h : Coherent config panel)
    (moves : List Move) : Coherent config (panel.play config moves) := by
  induction moves generalizing panel with
  | nil => exact h
  | cons m rest ih => exact ih (h.move m)

/-- Whatever happens to a new panel, it and its log agree. -/
theorem coherent_play (config : ClientConfig) (moves : List Move) :
    Coherent config (play config {} moves) := (Coherent.start config).play moves

/-! ## No move but a trigger makes a trigger -/

theorem triggers_begin (panel : ActionPanel) (instant id : Nat) :
    (panel.begin instant id).triggers = panel.triggers := by
  unfold ActionPanel.begin
  split <;> rfl

theorem triggers_proceed (panel : ActionPanel) (config : ClientConfig)
    (receive : SentRequest → Reception) (instant id : Nat)
    (answer : Except TokenError BearerToken) :
    (panel.proceed config receive instant id answer).triggers = panel.triggers := by
  unfold ActionPanel.proceed
  split
  · rfl
  · split <;> rfl

theorem triggers_resolve (panel : ActionPanel) (instant id : Nat)
    (result : Except TransportError Http.Status) :
    (panel.resolve instant id result).triggers = panel.triggers := by
  unfold ActionPanel.resolve
  split <;> rfl

/-! ## Runs from one panel to another -/

/-- Some run leads from one panel to the other. -/
def Reaches (config : ClientConfig) (panel next : ActionPanel) : Prop :=
  ∃ moves, next = panel.play config moves

namespace Reaches
variable {config : ClientConfig} {panel next last : ActionPanel}

theorem refl (config : ClientConfig) (panel : ActionPanel) : Reaches config panel panel := ⟨[], rfl⟩

theorem trans (h : Reaches config panel next) (h' : Reaches config next last) :
    Reaches config panel last := by
  obtain ⟨moves, rfl⟩ := h
  obtain ⟨more, rfl⟩ := h'
  exact ⟨moves ++ more, List.foldl_append.symm⟩

theorem one (m : Move) : Reaches config panel (panel.move config m) := ⟨[m], rfl⟩

theorem coherent (h : Reaches config panel next) (hpanel : Coherent config panel) :
    Coherent config next := by
  obtain ⟨moves, rfl⟩ := h
  exact hpanel.play moves

end Reaches

/-! ## Runs in which only tasks move -/

/-- Is the move one of a task? Then it makes no trigger and takes no task off the panel. -/
def Move.isOfTask : Move → Bool
  | .begin _ _ | .proceed _ _ _ _ | .resolve _ _ _ => true
  | .schedule _ _ _ | .collect _ => false

theorem setPhase_ids (panel : ActionPanel) (id : Nat) (mayLeave : TaskPhase → Bool)
    (phase : TaskPhase) :
    (panel.setPhase id mayLeave phase).tasks.map Task.id = panel.tasks.map Task.id := by
  rw [setPhase, List.map_map]
  refine List.map_congr_left fun task _ => ?_
  rw [Function.comp_apply]
  split <;> rfl

/-- A task that moves keeps its place on the panel. -/
theorem ids_move (config : ClientConfig) (panel : ActionPanel) {m : Move}
    (h : m.isOfTask = true) :
    (panel.move config m).tasks.map Task.id = panel.tasks.map Task.id := by
  cases m with
  | schedule | collect => cases h
  | begin instant id =>
    simp only [move, ActionPanel.begin]
    split
    · rfl
    · exact setPhase_ids _ _ _ _
  | proceed receive instant id answer =>
    simp only [move, ActionPanel.proceed]
    split
    · rfl
    · split <;> exact setPhase_ids _ _ _ _
  | resolve instant id result =>
    simp only [move, ActionPanel.resolve]
    split
    · rfl
    · exact setPhase_ids _ _ _ _

theorem triggers_move_of_isOfTask (config : ClientConfig) (panel : ActionPanel) {m : Move}
    (h : m.isOfTask = true) : (panel.move config m).triggers = panel.triggers := by
  cases m with
  | schedule | collect => cases h
  | begin instant id => exact triggers_begin panel instant id
  | proceed receive instant id answer => exact triggers_proceed _ _ _ _ _ _
  | resolve instant id result => exact triggers_resolve panel instant id result

/-- Some run in which only tasks move leads from one panel to the other. -/
def Works (config : ClientConfig) (panel next : ActionPanel) : Prop :=
  ∃ moves : List Move, (∀ m ∈ moves, m.isOfTask = true) ∧ next = panel.play config moves

namespace Works
variable {config : ClientConfig} {panel next last : ActionPanel}

theorem refl (config : ClientConfig) (panel : ActionPanel) : Works config panel panel :=
  ⟨[], by simp, rfl⟩

theorem trans (h : Works config panel next) (h' : Works config next last) :
    Works config panel last := by
  obtain ⟨moves, hmoves, rfl⟩ := h
  obtain ⟨more, hmore, rfl⟩ := h'
  refine ⟨moves ++ more, fun m hm => ?_, List.foldl_append.symm⟩
  exact (List.mem_append.1 hm).elim (hmoves m) (hmore m)

theorem one {m : Move} (h : m.isOfTask = true) : Works config panel (panel.move config m) :=
  ⟨[m], by simpa using h, rfl⟩

theorem reaches (h : Works config panel next) : Reaches config panel next :=
  let ⟨moves, _, hnext⟩ := h
  ⟨moves, hnext⟩

/-- What no move of a task changes is the same after them all. -/
theorem preserves {P : ActionPanel → Prop} (h : Works config panel next)
    (hmove : ∀ (panel : ActionPanel) (m : Move), m.isOfTask = true → P panel →
      P (panel.move config m)) (hpanel : P panel) : P next := by
  obtain ⟨moves, hmoves, rfl⟩ := h
  induction moves generalizing panel with
  | nil => exact hpanel
  | cons m rest ih =>
    exact ih (hmove panel m (hmoves m List.mem_cons_self) hpanel)
      fun other ho => hmoves other (List.mem_cons_of_mem m ho)

theorem triggers (h : Works config panel next) : next.triggers = panel.triggers :=
  h.preserves (P := fun other => other.triggers = panel.triggers)
    (fun other _ hm ho => (triggers_move_of_isOfTask config other hm).trans ho) rfl

theorem ids (h : Works config panel next) : next.tasks.map Task.id = panel.tasks.map Task.id :=
  h.preserves (P := fun other => other.tasks.map Task.id = panel.tasks.map Task.id)
    (fun other _ hm ho => (ids_move config other hm).trans ho) rfl

theorem outstanding (h : Works config panel next) : next.outstanding = panel.outstanding := by
  have hlength := congrArg List.length h.ids
  rwa [List.length_map, List.length_map] at hlength

theorem resolve (panel : ActionPanel) (instant id : Nat)
    (result : Except TransportError Http.Status) :
    Works config panel (panel.resolve instant id result) :=
  one (m := .resolve instant id result) rfl

theorem bounce (panel : ActionPanel) (instant id : Nat) :
    Works config panel (panel.bounce instant id) := by
  unfold ActionPanel.bounce
  split
  · exact refl _ _
  · exact resolve _ _ _ _

theorem dispatch (panel : ActionPanel) (receive : SentRequest → Reception) (instant id : Nat)
    (answer : Except TokenError BearerToken) :
    Works config panel (panel.dispatch config receive instant id answer) :=
  (one (m := .begin instant id) rfl).trans
    ((one (m := .proceed receive instant id answer) rfl).trans (bounce _ _ _))

end Works
end ActionPanel

/-! ## A panel on a clock -/

namespace TimedPanel
open ActionPanel

/-- What is left of a session after some steps. -/
def after (setting : PanelSetting) (horizon : Option Nat) (s : TimedPanel) (steps : List Step) :
    TimedPanel :=
  steps.foldl (fun s step => (s.step setting horizon step).1) s

theorem after_append (setting : PanelSetting) (horizon : Option Nat) (s : TimedPanel)
    (steps more : List Step) :
    s.after setting horizon (steps ++ more) =
      (s.after setting horizon steps).after setting horizon more := List.foldl_append

theorem works_wake (setting : PanelSetting) (s : TimedPanel) (task : Task) :
    Works setting.config s.panel (wake setting s task).panel := by
  unfold wake
  split
  · exact Works.dispatch _ _ _ _ _
  · exact Works.resolve _ _ _ _
  · exact Works.refl _ _
  · exact Works.refl _ _

theorem works_deliver (config : ClientConfig) (s : TimedPanel) (task : Task) :
    Works config s.panel (deliver s task).panel := by
  unfold deliver
  split
  · exact Works.resolve _ _ _ _
  · exact Works.refl _ _

theorem works_foldl {config : ClientConfig} {act : TimedPanel → Task → TimedPanel}
    (h : ∀ s task, Works config s.panel (act s task).panel) (tasks : List Task)
    (s : TimedPanel) : Works config s.panel (tasks.foldl act s).panel := by
  induction tasks generalizing s with
  | nil => exact Works.refl _ _
  | cons task rest ih => exact (h s task).trans (ih _)

theorem works_runDue (setting : PanelSetting) (s : TimedPanel) :
    Works setting.config s.panel (runDue setting s).panel :=
  (works_foldl (works_wake setting) _ _).trans (works_foldl (works_deliver _) _ _)

/-- While time passes only tasks move. -/
theorem works_runUntil (setting : PanelSetting) (limit : Option Nat) (s : TimedPanel) :
    Works setting.config s.panel (runUntil setting limit s).panel := by
  apply runUntil_preserves (P := fun next => Works setting.config s.panel next.panel)
  · exact fun next t h => h.trans (works_runDue setting { next with now := t })
  · exact Works.refl _ _

theorem works_advance (setting : PanelSetting) (s : TimedPanel) (span : Nat) :
    Works setting.config s.panel (s.advance setting span).panel := works_runUntil setting _ s

theorem works_reply (setting : PanelSetting) (s : TimedPanel) (action : PersonAction)
    (reply : Reply) : Works setting.config s.panel (s.reply setting action reply).1.panel := by
  have hready : Works setting.config s.panel (s.advance setting 0).panel :=
    works_advance setting s 0
  unfold TimedPanel.reply
  simp only
  split
  · exact hready.trans (Works.resolve _ _ _ _)
  · exact hready

theorem reaches_runUntil (setting : PanelSetting) (limit : Option Nat) (s : TimedPanel) :
    Reaches setting.config s.panel (runUntil setting limit s).panel :=
  (works_runUntil setting limit s).reaches

theorem reaches_reply (setting : PanelSetting) (s : TimedPanel) (action : PersonAction)
    (reply : Reply) : Reaches setting.config s.panel (s.reply setting action reply).1.panel :=
  (works_reply setting s action reply).reaches

theorem works_settle (setting : PanelSetting) (s : TimedPanel) (horizon : Option Nat) :
    Works setting.config s.panel (s.settle setting horizon).panel := works_runUntil setting _ s

theorem reaches_waitIdle (setting : PanelSetting) (s : TimedPanel) (horizon : Option Nat) :
    Reaches setting.config s.panel (s.waitIdle setting horizon).1.panel :=
  (works_settle setting s horizon).reaches.trans (Reaches.one (.collect fun _ => true))

/-- Waits make no triggers. -/
theorem triggers_waitIdle (setting : PanelSetting) (s : TimedPanel) (horizon : Option Nat) :
    (s.waitIdle setting horizon).1.panel.triggers = s.panel.triggers :=
  (works_settle setting s horizon).triggers

/-- A wait that comes to its end leaves no task on the panel. -/
theorem outstanding_waitIdle {setting : PanelSetting} {s : TimedPanel} {horizon : Option Nat}
    (h : (s.waitIdle setting horizon).2 = true) :
    (s.waitIdle setting horizon).1.panel.outstanding = 0 := by
  rw [outstanding, List.length_eq_zero_iff]
  refine List.filter_eq_nil_iff.2 fun task hmem => ?_
  have := List.all_eq_true.1 h task hmem
  simpa using this

/-! ### What the passing of time leaves alone -/

theorem wake_eq (setting : PanelSetting) (s : TimedPanel) (task : Task) :
    ∃ panel, wake setting s task = { s with panel := panel } := by
  unfold wake
  split
  · exact ⟨_, rfl⟩
  · exact ⟨_, rfl⟩
  · exact ⟨s.panel, rfl⟩
  · exact ⟨s.panel, rfl⟩

theorem deliver_eq (s : TimedPanel) (task : Task) :
    ∃ panel, deliver s task = { s with panel := panel } := by
  unfold deliver
  split
  · exact ⟨_, rfl⟩
  · exact ⟨s.panel, rfl⟩

theorem foldl_eq {act : TimedPanel → Task → TimedPanel}
    (h : ∀ s task, ∃ panel, act s task = { s with panel := panel }) (tasks : List Task)
    (s : TimedPanel) : ∃ panel, tasks.foldl act s = { s with panel := panel } := by
  induction tasks generalizing s with
  | nil => exact ⟨s.panel, rfl⟩
  | cons task rest ih =>
    obtain ⟨panel, hact⟩ := h s task
    rw [List.foldl_cons, hact]
    exact ih _

/-- What is due at an instant happens to the panel and to nothing else. -/
theorem runDue_eq (setting : PanelSetting) (s : TimedPanel) :
    ∃ panel, runDue setting s = { s with panel := panel } := by
  obtain ⟨woken, hwoken⟩ := foldl_eq (wake_eq setting) (s.panel.tasks.filter (isDue s.now)) s
  rw [runDue, hwoken]
  exact foldl_eq deliver_eq _ _

/-- The passing of time changes the clock and the panel, and nothing else. -/
theorem runUntil_eq (setting : PanelSetting) (limit : Option Nat) (s : TimedPanel) :
    ∃ now panel, runUntil setting limit s = { s with now := now, panel := panel } := by
  apply runUntil_preserves (P := fun next =>
    ∃ now panel, next = { s with now := now, panel := panel })
  · rintro next t ⟨now, panel, rfl⟩
    obtain ⟨panel', hdue⟩ := runDue_eq setting { s with now := t, panel := panel }
    exact ⟨t, panel', hdue⟩
  · exact ⟨s.now, s.panel, rfl⟩

theorem live_runUntil (setting : PanelSetting) (limit : Option Nat) (s : TimedPanel) :
    (runUntil setting limit s).live = s.live := by
  obtain ⟨now, panel, h⟩ := runUntil_eq setting limit s
  rw [h]

theorem environment_runUntil (setting : PanelSetting) (limit : Option Nat) (s : TimedPanel) :
    (runUntil setting limit s).environment = s.environment := by
  obtain ⟨now, panel, h⟩ := runUntil_eq setting limit s
  rw [h]

theorem live_advance (setting : PanelSetting) (s : TimedPanel) (span : Nat) :
    (s.advance setting span).live = s.live := live_runUntil setting _ s

theorem environment_advance (setting : PanelSetting) (s : TimedPanel) (span : Nat) :
    (s.advance setting span).environment = s.environment := environment_runUntil setting _ s

/-- Time makes no triggers. -/
theorem triggers_advance (setting : PanelSetting) (s : TimedPanel) (span : Nat) :
    (s.advance setting span).panel.triggers = s.panel.triggers :=
  (works_advance setting s span).triggers

theorem live_reply (setting : PanelSetting) (s : TimedPanel) (action : PersonAction)
    (reply : Reply) : (s.reply setting action reply).1.live = s.live := by
  unfold TimedPanel.reply
  simp only
  split <;> exact live_advance setting s 0

theorem environment_reply (setting : PanelSetting) (s : TimedPanel) (action : PersonAction)
    (reply : Reply) : (s.reply setting action reply).1.environment = s.environment := by
  unfold TimedPanel.reply
  simp only
  split <;> exact environment_advance setting s 0

theorem environment_waitIdle (setting : PanelSetting) (s : TimedPanel) (horizon : Option Nat) :
    (s.waitIdle setting horizon).1.environment = s.environment := environment_runUntil setting _ s

theorem live_waitIdle (setting : PanelSetting) (s : TimedPanel) (horizon : Option Nat) :
    (s.waitIdle setting horizon).1.live = s.live := live_runUntil setting _ s

/-! ### Sessions -/

/-- A session waits for its tasks, or it only lets time pass as far as a wait would; without a panel
it does nothing. -/
theorem step_waitIdle (setting : PanelSetting) (horizon : Option Nat) (s : TimedPanel) :
    (s.step setting horizon .waitIdle).1 = (s.waitIdle setting horizon).1 ∨
      (s.step setting horizon .waitIdle).1 = s.settle setting horizon ∨
      (s.step setting horizon .waitIdle).1 = s := by
  simp only [TimedPanel.step]
  split
  · split
    · exact .inl rfl
    · exact .inr (.inl rfl)
  · exact .inr (.inr rfl)

/-- What a step does to the environment. -/
def Step.onEnvironment (env : Environment) : Step → Environment
  | .setVariable name value => env.set name value
  | .unsetVariable name => env.unset name
  | .trigger _ | .advance _ | .reply _ _ | .waitIdle | .render | .teardown | .drop => env

theorem environment_step (setting : PanelSetting) (horizon : Option Nat) (s : TimedPanel)
    (step : Step) :
    (s.step setting horizon step).1.environment = step.onEnvironment s.environment := by
  cases step with
  | setVariable name value => rfl
  | unsetVariable name => rfl
  | advance span => exact environment_advance setting s span
  | reply action reply => exact environment_reply setting s action reply
  | waitIdle =>
    rcases step_waitIdle setting horizon s with h | h | h <;> rw [h]
    · exact environment_waitIdle setting s horizon
    · exact environment_runUntil setting _ s
    · rfl
  | trigger | render | teardown | drop =>
    simp only [TimedPanel.step]
    split <;> rfl

/-- The environment after some steps is what these steps made of it, whatever the panel did. -/
theorem environment_after (setting : PanelSetting) (horizon : Option Nat) (s : TimedPanel)
    (steps : List Step) :
    (s.after setting horizon steps).environment = steps.foldl Step.onEnvironment s.environment := by
  induction steps generalizing s with
  | nil => rfl
  | cons step rest ih => exact (ih _).trans (by rw [environment_step, List.foldl_cons])

/-- A panel that is gone does not come back. -/
theorem live_of_live_step {setting : PanelSetting} {horizon : Option Nat} {s : TimedPanel}
    {step : Step} (h : (s.step setting horizon step).1.live = true) : s.live = true := by
  cases step with
  | advance span => exact (live_advance setting s span).symm.trans h
  | reply action reply => exact (live_reply setting s action reply).symm.trans h
  | setVariable name value => exact h
  | unsetVariable name => exact h
  | trigger | waitIdle | render | teardown | drop =>
    by_contra hgone
    simp [TimedPanel.step, hgone] at h

/-- A step that leaves the panel in place is a run of it. -/
theorem reaches_step (setting : PanelSetting) (horizon : Option Nat) (s : TimedPanel) (step : Step)
    (h : (s.step setting horizon step).1.live = true) :
    Reaches setting.config s.panel (s.step setting horizon step).1.panel := by
  have hlive := live_of_live_step h
  cases step with
  | trigger action =>
    simp only [TimedPanel.step, hlive, if_true]
    exact Reaches.one (.schedule _ _ action)
  | advance span => exact reaches_runUntil setting _ s
  | reply action reply => exact reaches_reply setting s action reply
  | waitIdle =>
    rcases step_waitIdle setting horizon s with hstep | hstep | hstep <;> rw [hstep]
    · exact reaches_waitIdle setting s horizon
    · exact (works_settle setting s horizon).reaches
    · exact Reaches.refl _ _
  | render =>
    simp only [TimedPanel.step, hlive, if_true]
    exact Reaches.refl _ _
  | setVariable name value => exact Reaches.refl _ _
  | unsetVariable name => exact Reaches.refl _ _
  | teardown | drop => simp [TimedPanel.step, hlive, TimedPanel.teardown, TimedPanel.drop] at h

theorem live_of_live_after {setting : PanelSetting} {horizon : Option Nat} {s : TimedPanel}
    {steps : List Step} (h : (s.after setting horizon steps).live = true) : s.live = true := by
  induction steps generalizing s with
  | nil => exact h
  | cons step rest ih => exact live_of_live_step (ih h)

/-- As long as it is not taken down, a panel in a session is run like any other. -/
theorem reaches_after (setting : PanelSetting) (horizon : Option Nat) (s : TimedPanel)
    (steps : List Step) (h : (s.after setting horizon steps).live = true) :
    Reaches setting.config s.panel (s.after setting horizon steps).panel := by
  induction steps generalizing s with
  | nil => exact Reaches.refl _ _
  | cons step rest ih =>
    exact (reaches_step setting horizon s step (live_of_live_after h)).trans (ih _ h)

end TimedPanel
end PersonGate
