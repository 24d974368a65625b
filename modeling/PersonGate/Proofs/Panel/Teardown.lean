import PersonGate.Proofs.Panel.Ledger
/-!
# The end of a panel is final

A panel is at rest when none of its tasks has anything before it. Stopping all tasks or letting go
of them puts any panel at rest, wherever its tasks stood, and from there no move that is not a trigger
adds to the log or publishes a status (`AtRest.play`). In a session the panel is gone after that,
so no trigger comes either, and no step brings anything about (`Gone.run`). The headline is
`teardown_final`.
-/
namespace PersonGate

namespace ActionPanel

/-- No task has a move before it. -/
def AtRest (panel : ActionPanel) : Prop := ∀ task ∈ panel.tasks, task.phase.isFinished = true

/-- The later panel tells and shows the same as the earlier one. -/
structure Unchanged (panel next : ActionPanel) : Prop where
  log : next.log = panel.log
  board : next.board = panel.board

theorem Unchanged.trans {panel next last : ActionPanel} (h : Unchanged panel next)
    (h' : Unchanged next last) : Unchanged panel last :=
  ⟨h'.log.trans h.log, h'.board.trans h.board⟩

theorem atRest_abortAll (panel : ActionPanel) : panel.abortAll.AtRest := by
  intro task hmem
  obtain ⟨other, -, rfl⟩ := List.mem_map.1 hmem
  rfl

theorem atRest_release (panel : ActionPanel) : panel.release.AtRest := by
  intro task hmem
  cases hmem

namespace AtRest
variable {panel : ActionPanel}

theorem task?_eq_none (h : panel.AtRest) (p : TaskPhase → Bool) (hp : p .finished = false)
    (id : Nat) : panel.task? id p = none := by
  refine List.find?_eq_none.2 fun task hmem => ?_
  rw [TaskPhase.eq_finished (h task hmem)]
  simp [hp]

/-- A timer, an answer of the token source or a reply that comes late finds no task to move. -/
theorem move (h : panel.AtRest) (config : ClientConfig) {m : Move} (hm : m.action? = none) :
    Unchanged panel (panel.move config m) ∧ (panel.move config m).AtRest := by
  cases m with
  | schedule instant due action => cases hm
  | begin instant id =>
    have hsame : panel.move config (.begin instant id) = panel := by
      simp only [ActionPanel.move, ActionPanel.begin, h.task?_eq_none TaskPhase.isWaiting rfl]
    rw [hsame]
    exact ⟨⟨rfl, rfl⟩, h⟩
  | proceed receive instant id answer =>
    have hsame : panel.move config (.proceed receive instant id answer) = panel := by
      simp only [ActionPanel.move, ActionPanel.proceed, h.task?_eq_none TaskPhase.isAsking rfl]
    rw [hsame]
    exact ⟨⟨rfl, rfl⟩, h⟩
  | resolve instant id result =>
    have hsame : panel.move config (.resolve instant id result) = panel := by
      simp only [ActionPanel.move, ActionPanel.resolve, h.task?_eq_none TaskPhase.isInFlight rfl]
    rw [hsame]
    exact ⟨⟨rfl, rfl⟩, h⟩
  | collect chosen => exact ⟨⟨rfl, rfl⟩, fun task hmem => h task (List.mem_filter.1 hmem).1⟩

theorem play (h : panel.AtRest) (config : ClientConfig) {moves : List Move}
    (hmoves : ∀ m ∈ moves, m.action? = none) :
    Unchanged panel (panel.play config moves) := by
  induction moves generalizing panel with
  | nil => exact ⟨rfl, rfl⟩
  | cons m rest ih =>
    obtain ⟨hsame, hrest⟩ := h.move config (hmoves m (by simp))
    exact hsame.trans (ih hrest fun m' hm' => hmoves m' (List.mem_cons_of_mem m hm'))

end AtRest
end ActionPanel

/-! ## Sessions after the end -/

namespace TimedPanel
open ActionPanel

/-- There is no panel any more, and none of its tasks is left to move. -/
structure Gone (s : TimedPanel) : Prop where
  dead : s.live = false
  atRest : s.panel.AtRest

theorem gone_drop (s : TimedPanel) : s.drop.Gone := ⟨rfl, atRest_release _⟩

theorem next?_of_atRest {s : TimedPanel} (h : s.panel.AtRest) (limit : Option Nat) :
    s.next? limit = none := by
  have hnone : s.panel.tasks.filterMap (fun task => task.phase.wakesAt?) = [] := by
    refine List.filterMap_eq_nil_iff.2 fun task hmem => ?_
    rw [TaskPhase.eq_finished (h task hmem)]
    rfl
  rw [next?, hnone]
  rfl

theorem advance_of_atRest {s : TimedPanel} (h : s.panel.AtRest) (setting : PanelSetting)
    (span : Nat) : s.advance setting span = { s with now := s.now + span } := by
  rw [advance, runUntil_of_none (next?_of_atRest h _)]

theorem held?_of_atRest {s : TimedPanel} (h : s.panel.AtRest) (method : Http.Method) :
    s.held? method = none := by
  refine List.find?_eq_none.2 fun task hmem => ?_
  rw [TaskPhase.eq_finished (h task hmem)]
  simp [TaskPhase.isInFlight]

namespace Gone
variable {s : TimedPanel}

/-- Time may pass and the environment may change, but nothing becomes of the panel. -/
theorem step (h : s.Gone) (setting : PanelSetting) (horizon : Option Nat) (step : Step) :
    (s.step setting horizon step).1.panel = s.panel ∧ (s.step setting horizon step).1.Gone := by
  cases step with
  | advance span =>
    simp only [TimedPanel.step, advance_of_atRest h.atRest]
    exact ⟨trivial, h.dead, h.atRest⟩
  | reply action reply =>
    have hreply : s.reply setting action reply = ({ s with now := s.now + 0 }, false) := by
      simp only [TimedPanel.reply, advance_of_atRest h.atRest]
      rw [held?_of_atRest (s := { s with now := s.now + 0 }) h.atRest]
    simp only [TimedPanel.step, hreply]
    exact ⟨trivial, h.dead, h.atRest⟩
  | setVariable name value => exact ⟨rfl, h.dead, h.atRest⟩
  | unsetVariable name => exact ⟨rfl, h.dead, h.atRest⟩
  | trigger | waitIdle | render | teardown | drop =>
    simp only [TimedPanel.step, h.dead, Bool.false_eq_true, if_false]
    exact ⟨trivial, h⟩

theorem after (h : s.Gone) (setting : PanelSetting) (horizon : Option Nat) (steps : List Step) :
    (s.after setting horizon steps).panel = s.panel ∧ (s.after setting horizon steps).Gone := by
  induction steps generalizing s with
  | nil => exact ⟨rfl, h⟩
  | cons step rest ih =>
    obtain ⟨hsame, hgone⟩ := h.step setting horizon step
    obtain ⟨hpanel, hgone'⟩ := ih hgone
    exact ⟨hpanel.trans hsame, hgone'⟩

end Gone

/-- A report in which nothing happens to a panel that is gone. -/
structure Quiet (panel : ActionPanel) (report : Report) : Prop where
  status : report.status = panel.status
  changed : report.changed = none
  outstanding : report.outstanding = none
  requests : report.requests = []
  outcomes : report.outcomes = []
  tokenCalls : report.tokenCalls = tokenCalls panel.log

theorem quiet_report {s next : TimedPanel} (h : Unchanged s.panel next.panel)
    (hgone : next.live = false) (answer : Answer) : Quiet s.panel (report s next answer) := by
  have hnews : next.panel.log.drop s.panel.log.length = [] := by rw [h.log, List.drop_length]
  constructor
  case status => rw [report, ActionPanel.status, h.board, ActionPanel.status]
  case changed => simp [report, hgone]
  case outstanding => simp [report, hgone]
  case requests => simp [report, hnews, requests, readings, sortRequests]
  case outcomes => simp [report, hnews, outcomes, readings]
  case tokenCalls => rw [report, h.log]

theorem Quiet.of_unchanged {panel next : ActionPanel} {report : Report} (h : Quiet next report)
    (hsame : Unchanged panel next) : Quiet panel report where
  status := by rw [h.status, ActionPanel.status, hsame.board, ActionPanel.status]
  changed := h.changed
  outstanding := h.outstanding
  requests := h.requests
  outcomes := h.outcomes
  tokenCalls := by rw [h.tokenCalls, hsame.log]

theorem Gone.run {setting : PanelSetting} {horizon : Option Nat} {s : TimedPanel} (h : s.Gone)
    (steps : List Step) : ∀ report ∈ s.run setting horizon steps, Quiet s.panel report := by
  induction steps generalizing s with
  | nil => simp [TimedPanel.run]
  | cons step rest ih =>
    obtain ⟨hsame, hgone⟩ := h.step setting horizon step
    intro report hmem
    rcases List.mem_cons.1 hmem with rfl | hmem
    · exact quiet_report ⟨congrArg _ hsame, congrArg _ hsame⟩ hgone.dead _
    · have := ih hgone report hmem
      rwa [hsame] at this

/-- A step leaves a panel in place, or it lets go of it for good. -/
theorem live_or_gone_step {setting : PanelSetting} {horizon : Option Nat} {s : TimedPanel}
    (h : s.live = true) (step : Step) :
    (s.step setting horizon step).1.live = true ∨ (s.step setting horizon step).1.Gone := by
  cases step with
  | advance span => exact .inl ((live_advance setting s span).trans h)
  | reply action reply => exact .inl ((live_reply setting s action reply).trans h)
  | waitIdle =>
    rcases step_waitIdle setting horizon s with hstep | hstep | hstep <;> rw [hstep]
    · exact .inl ((live_waitIdle setting s horizon).trans h)
    · exact .inl ((live_runUntil setting _ s).trans h)
    · exact .inl h
  | trigger action =>
    simp only [TimedPanel.step, h, if_true]
    exact .inl h
  | render =>
    simp only [TimedPanel.step, h, if_true]
    exact .inl trivial
  | setVariable name value => exact .inl h
  | unsetVariable name => exact .inl h
  | teardown | drop =>
    simp only [TimedPanel.step, h, if_true]
    exact .inr (gone_drop _)

theorem live_or_gone {setting : PanelSetting} {horizon : Option Nat} {s : TimedPanel}
    (h : s.live = true ∨ s.Gone) (steps : List Step) :
    (s.after setting horizon steps).live = true ∨ (s.after setting horizon steps).Gone := by
  induction steps generalizing s with
  | nil => exact h
  | cons step rest ih =>
    rcases h with hlive | hgone
    · exact ih (live_or_gone_step hlive step)
    · exact ih (.inr (hgone.step setting horizon step).2)

/-- However a panel ends, it is gone, and nothing was told or shown by that. -/
theorem gone_teardown (setting : PanelSetting) (horizon : Option Nat) {s : TimedPanel}
    (h : s.live = true ∨ s.Gone) :
    Unchanged s.panel (s.step setting horizon .teardown).1.panel ∧
      (s.step setting horizon .teardown).1.Gone ∧
      s.step setting horizon .drop = s.step setting horizon .teardown := by
  rcases h with hlive | hgone
  · simp only [TimedPanel.step, hlive, if_true]
    exact ⟨⟨rfl, rfl⟩, gone_drop _, rfl⟩
  · simp only [TimedPanel.step, hgone.dead, Bool.false_eq_true, if_false]
    exact ⟨⟨rfl, rfl⟩, hgone, trivial⟩

/-! ## The end is final -/

/-- **The end of a panel is final.** Take the panel down in a session or drop it, whatever was done
before: its log and its board stay, whatever is done later, every later report is one of a panel to
which nothing happens, and no report tells which of the two it was. This does not depend on where
the tasks stand or on the order in which the world moves them: once a panel has stopped its tasks or
let go of them, no timer, answer or reply that comes late changes the log or the board. -/
theorem teardown_final (setting : PanelSetting) (horizon : Option Nat) (environment : Environment)
    (before later : List Step) :
    let s := ({ environment } : TimedPanel).after setting horizon before
    (∀ ending ∈ [Step.teardown, Step.drop],
      Unchanged s.panel (s.after setting horizon (ending :: later)).panel ∧
      ∀ report ∈ s.run setting horizon (ending :: later), Quiet s.panel report) ∧
    s.run setting horizon (.drop :: later) = s.run setting horizon (.teardown :: later) ∧
    ∀ (config : ClientConfig) (panel : ActionPanel),
      ∀ stopped ∈ [panel.abortAll, panel.abortAll.release, panel.release],
      ∀ moves : List Move, (∀ m ∈ moves, m.action? = none) →
        Unchanged panel (stopped.play config moves) := by
  intro s
  have hstate : s.live = true ∨ s.Gone := live_or_gone (.inl rfl) before
  obtain ⟨hsame, hgone, hdrop⟩ := gone_teardown setting horizon hstate
  refine ⟨?_, ?_, ?_⟩
  · intro ending hending
    have hstep : s.step setting horizon ending = s.step setting horizon .teardown := by
      simp only [List.mem_cons, List.not_mem_nil, or_false] at hending
      rcases hending with rfl | rfl
      · rfl
      · exact hdrop
    constructor
    · obtain ⟨hpanel, -⟩ := hgone.after setting horizon later
      show Unchanged s.panel ((s.step setting horizon ending).1.after setting horizon later).panel
      rw [hstep, hpanel]
      exact hsame
    · intro report hmem
      rw [TimedPanel.run, hstep] at hmem
      rcases List.mem_cons.1 hmem with rfl | hmem
      · exact quiet_report hsame hgone.dead _
      · exact (hgone.run later report hmem).of_unchanged hsame
  · rw [TimedPanel.run, TimedPanel.run, hdrop]
  · intro config panel stopped hstopped moves hmoves
    have hrest : Unchanged panel stopped ∧ stopped.AtRest := by
      simp only [List.mem_cons, List.not_mem_nil, or_false] at hstopped
      rcases hstopped with rfl | rfl | rfl
      · exact ⟨⟨rfl, rfl⟩, atRest_abortAll _⟩
      · exact ⟨⟨rfl, rfl⟩, atRest_release _⟩
      · exact ⟨⟨rfl, rfl⟩, atRest_release _⟩
    exact hrest.1.trans (hrest.2.play config hmoves)

/-- One task waits, one has asked for a token, one is in flight; then the timer, the token and the
reply come late. -/
theorem teardown_final_midway :
    let config := ClientConfig.standard
    let panel := play config {} [.schedule 0 3 .create, .schedule 0 3 .update,
      .schedule 0 5 .restricted, .begin 3 0, .begin 3 1,
      .proceed (fun _ => .held) 3 0 (.ok ⟨['t']⟩)]
    let late : List Move := [.begin 5 2, .proceed (fun _ => .held) 5 1 (.ok ⟨['t']⟩),
      .resolve 6 0 (.ok 200)]
    panel.tasks.map Task.phase = [.inFlight none .held, .asking, .waiting 5] ∧
    (∀ m ∈ late, m.action? = none) ∧ Unchanged panel (panel.abortAll.play config late) := by
  intro config panel late
  have hlate : ∀ m ∈ late, m.action? = none := by simp [late, Move.action?]
  have hfinal := teardown_final ⟨config, .fixed ⟨['t']⟩, .holding⟩ none {} [] []
  exact ⟨rfl, hlate, hfinal.2.2 config panel panel.abortAll (by simp) late hlate⟩

end TimedPanel
end PersonGate
