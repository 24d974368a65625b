import PersonGate.Proofs.Panel.Display
import PersonGate.Proofs.Panel.Ledger
/-!
# Which tasks are still on a panel

A task that has come to its end stays on the panel until somebody takes it off: the next trigger
does, before it adds its own task, and so does a wait that comes to its end. Nothing else takes a
task off. So the panel holds the tasks that have not ended and those that ended since it was cleared
last (`Coherent.ids_perm_since`), and finished tasks do not pile up over triggers. What carries this
is `KeepsSince`: the tasks on the panel are those that were open when it was cleared. The headline
is `outstanding_exact`.
-/
namespace PersonGate
namespace ActionPanel

/-- Does this part of a log have the end of the task? -/
def endedIn (log : List LogEntry) (id : Nat) : Bool := (eventsOf log id).any TaskEvent.isFinished

/-- The triggers whose tasks have not come to their end. -/
def unfinished (panel : ActionPanel) : List Nat :=
  (List.range panel.triggers).filter fun id => !panel.hasEnded id

/-- The triggers whose tasks came to their end after the log had this length. -/
def endedSince (panel : ActionPanel) (mark : Nat) : List Nat :=
  (List.range panel.triggers).filter (endedIn (panel.log.drop mark))

/-- The tasks on the panel are those that had not come to their end when the log had this length. -/
def KeepsSince (panel : ActionPanel) (mark : Nat) : Prop :=
  (panel.tasks.map Task.id).Perm
    ((List.range panel.triggers).filter fun id => !endedIn (panel.log.take mark) id)

/-- A task ends once. -/
theorem Story.finished_once {config : ClientConfig} {action : PersonAction} {phase : TaskPhase}
    {events : List TaskEvent} (h : Story config action phase events) :
    events.countP TaskEvent.isFinished ≤ 1 := by
  cases h <;> exact Nat.le_of_ble_eq_true rfl

theorem hasEnded_eq (panel : ActionPanel) (mark id : Nat) :
    panel.hasEnded id =
      (endedIn (panel.log.take mark) id || endedIn (panel.log.drop mark) id) := by
  rw [endedIn, endedIn, ← List.any_append, ← eventsOf_append, List.take_append_drop]
  rfl

/-- Nothing has ended since now. -/
theorem endedSince_length (panel : ActionPanel) : panel.endedSince panel.log.length = [] := by
  rw [endedSince, List.drop_length, List.filter_eq_nil_iff]
  simp [endedIn, eventsOf, entriesOf]

/-- What a trigger makes of a panel: it takes the finished tasks off, adds one of its own, and does
nothing that a task does. -/
structure Triggered (panel next : ActionPanel) : Prop where
  outstanding : next.outstanding = next.unfinished.length
  unfinished : next.unfinished = panel.unfinished ++ [panel.triggers]
  calls : tokenCalls next.log = tokenCalls panel.log
  requests : requests next.log = requests panel.log
  outcomes : outcomes next.log = outcomes panel.log

/-- No task on the panel has come to its end. -/
def Cleared (panel : ActionPanel) : Prop := ∀ task ∈ panel.tasks, task.phase.isFinished = false

/-! ## What a panel keeps -/

theorem KeepsSince.works {config : ClientConfig} {panel next : ActionPanel} {mark : Nat}
    (h : panel.KeepsSince mark) (hmark : mark ≤ panel.log.length)
    (hworks : Works config panel next) : next.KeepsSince mark := by
  obtain ⟨news, hlog⟩ : panel.log <+: next.log := by
    apply hworks.preserves (P := fun other => panel.log <+: other.log)
    · intro other m _ hother
      obtain ⟨_, _, _, -, -, hm⟩ := log_move config other m
      rw [hm]
      exact hother.trans (List.prefix_append _ _)
    · exact List.prefix_refl _
  rw [KeepsSince, hworks.ids, hworks.triggers, ← hlog, List.take_append_of_le_length hmark]
  exact h

namespace Coherent
variable {config : ClientConfig} {panel : ActionPanel}

theorem keepsSince (h : Coherent config panel) (hcleared : panel.Cleared) :
    panel.KeepsSince panel.log.length := by
  have hperm := h.ids_perm (p := fun phase => !phase.isFinished) (q := fun id => !panel.hasEnded id)
    rfl fun id action phase hs => by rw [hasEnded, hs.isFinished]
  have hall : (panel.tasks.filter fun task => !task.phase.isFinished) = panel.tasks := by
    apply List.filter_eq_self.2
    intro task hmem
    rw [hcleared task hmem]
    rfl
  rw [hall] at hperm
  rw [KeepsSince, List.take_length]
  exact hperm

/-- The task was not told to end before that, as it ends once. -/
theorem endedIn_take (h : Coherent config panel) {id mark : Nat} (hid : id < panel.triggers)
    (hafter : endedIn (panel.log.drop mark) id = true) :
    endedIn (panel.log.take mark) id = false := by
  obtain ⟨action, phase, hs, -⟩ := h.story hid
  have honce := hs.finished_once
  rw [← List.take_append_drop mark panel.log, eventsOf_append, List.countP_append] at honce
  have hpos := List.countP_pos_iff.2 (List.any_eq_true.1 hafter)
  by_contra hbefore
  have hpos' := List.countP_pos_iff.2 (List.any_eq_true.1 (Bool.not_eq_false _ ▸ hbefore))
  omega

/-- The tasks on the panel are the unfinished ones and those that ended since. -/
theorem ids_perm_since (h : Coherent config panel) {mark : Nat} (hkeeps : panel.KeepsSince mark) :
    (panel.tasks.map Task.id).Perm (panel.unfinished ++ panel.endedSince mark) := by
  have hsplit := List.filter_append_perm (fun id => !panel.hasEnded id)
    ((List.range panel.triggers).filter fun id => !endedIn (panel.log.take mark) id)
  have hopen : ((List.range panel.triggers).filter fun id =>
      !endedIn (panel.log.take mark) id).filter (fun id => !panel.hasEnded id) =
        panel.unfinished := by
    rw [List.filter_filter]
    apply List.filter_congr
    intro id _
    rw [hasEnded_eq panel mark]
    cases endedIn (panel.log.take mark) id <;> simp
  have hended : ((List.range panel.triggers).filter fun id =>
      !endedIn (panel.log.take mark) id).filter (fun id => !!panel.hasEnded id) =
        panel.endedSince mark := by
    rw [List.filter_filter]
    apply List.filter_congr
    intro id hid
    rw [hasEnded_eq panel mark]
    cases hafter : endedIn (panel.log.drop mark) id
    · cases endedIn (panel.log.take mark) id <;> rfl
    · rw [h.endedIn_take (List.mem_range.1 hid) hafter]
      rfl
  rw [hopen, hended] at hsplit
  exact hkeeps.trans hsplit.symm

theorem outstanding_eq (h : Coherent config panel) {mark : Nat} (hkeeps : panel.KeepsSince mark) :
    panel.outstanding = panel.unfinished.length + (panel.endedSince mark).length := by
  have hlength := (h.ids_perm_since hkeeps).length_eq
  rwa [List.length_map, List.length_append] at hlength

end Coherent

/-! ## Triggers -/

theorem cleared_reap (panel : ActionPanel) : panel.reap.Cleared := by
  intro task hmem
  have := (List.mem_filter.1 hmem).2
  simpa using this

theorem cleared_schedule (panel : ActionPanel) (instant due : Nat) (action : PersonAction) :
    (panel.schedule instant due action).Cleared := by
  intro task hmem
  rcases List.mem_append.1 hmem with hkept | hnew
  · exact cleared_reap panel task hkept
  · rw [List.mem_singleton.1 hnew]
    rfl

namespace Coherent
variable {config : ClientConfig} {panel : ActionPanel}

theorem unfinished_schedule (h : Coherent config panel) (instant due : Nat)
    (action : PersonAction) :
    (panel.schedule instant due action).unfinished = panel.unfinished ++ [panel.triggers] := by
  have hlog : (panel.schedule instant due action).log = panel.log ++
      [TaskEvent.scheduled action].map fun event => ⟨panel.triggers, instant, event⟩ := rfl
  have hold : ∀ id < panel.triggers,
      (panel.schedule instant due action).hasEnded id = panel.hasEnded id := by
    intro id hid
    rw [hasEnded, hlog, eventsOf_append, eventsOf_note_other (Nat.ne_of_lt hid), List.append_nil,
      hasEnded]
  have hnew : (panel.schedule instant due action).hasEnded panel.triggers = false := by
    rw [hasEnded, hlog, eventsOf_append, eventsOf_note_self,
      eventsOf_eq_nil fun entry hmem => Nat.ne_of_lt (h.known entry hmem)]
    rfl
  have htriggers : (panel.schedule instant due action).triggers = panel.triggers + 1 := rfl
  rw [unfinished, htriggers, List.range_succ, List.filter_append, List.filter_singleton, hnew,
    unfinished]
  congr 1
  apply List.filter_congr
  intro id hid
  rw [hold id (List.mem_range.1 hid)]

theorem triggered (h : Coherent config panel) (instant due : Nat) (action : PersonAction) :
    Triggered panel (panel.schedule instant due action) := by
  have hread : ∀ {α : Type} (read : TaskEvent → Option α), read (.scheduled action) = none →
      readings read (panel.schedule instant due action).log = readings read panel.log := by
    intro α read hnone
    show readings read (panel.log ++ [TaskEvent.scheduled action].map _) = _
    rw [readings_append, readings_note, List.filterMap_cons_none hnone, List.filterMap_nil,
      List.append_nil]
  constructor
  case outstanding =>
    have hnext := h.schedule instant due action
    rw [hnext.outstanding_eq (hnext.keepsSince (cleared_schedule panel instant due action)),
      endedSince_length, List.length_nil, Nat.add_zero]
  case unfinished => exact h.unfinished_schedule instant due action
  case calls => exact congrArg List.length (hread TaskEvent.answer? rfl)
  case requests => exact hread TaskEvent.arrived? rfl
  case outcomes => exact hread TaskEvent.notice? rfl

end Coherent
end ActionPanel

/-! ## Sessions -/

namespace TimedPanel
open ActionPanel

/-- Does a step take the finished tasks off the panel, if this is its answer? -/
def Step.clears (answer : Answer) : Step → Bool
  | .trigger _ => true
  | .waitIdle => answer = .idle
  | _ => false

/-- The length that the log had when the panel was cleared last, if it had been cleared at `mark`
before these steps. -/
def clearedAt (setting : PanelSetting) (horizon : Option Nat) (s : TimedPanel) (mark : Nat) :
    List Step → Nat
  | [] => mark
  | step :: rest =>
    let next := (s.step setting horizon step).1
    let answer := (s.step setting horizon step).2
    clearedAt setting horizon next (if step.clears answer then next.panel.log.length else mark) rest

section
variable {setting : PanelSetting} {horizon : Option Nat} {s : TimedPanel}

/-- In a step that does not clear the panel only tasks move. -/
theorem works_step {step : Step} (hlive : (s.step setting horizon step).1.live = true)
    (hkeeps : step.clears (s.step setting horizon step).2 = false) :
    Works setting.config s.panel (s.step setting horizon step).1.panel := by
  have hbefore := live_of_live_step hlive
  cases step with
  | trigger action => cases hkeeps
  | advance span => exact works_advance setting s span
  | reply action reply => exact works_reply setting s action reply
  | waitIdle =>
    simp only [TimedPanel.step, hbefore, if_true] at hkeeps ⊢
    split
    · rename_i hidle
      simp [hidle, Step.clears] at hkeeps
    · exact works_settle setting s horizon
  | render =>
    simp only [TimedPanel.step, hbefore, if_true]
    exact Works.refl _ _
  | setVariable name value => exact Works.refl _ _
  | unsetVariable name => exact Works.refl _ _
  | teardown | drop =>
    simp [TimedPanel.step, hbefore, TimedPanel.teardown, TimedPanel.drop] at hlive

/-- No wait leaves a finished task behind, also if it was cut short. -/
theorem cleared_waitIdle (setting : PanelSetting) (s : TimedPanel) (horizon : Option Nat) :
    (s.waitIdle setting horizon).1.panel.Cleared := cleared_reap _

theorem cleared_step {step : Step} (hlive : s.live = true)
    (hclears : step.clears (s.step setting horizon step).2 = true) :
    (s.step setting horizon step).1.panel.Cleared := by
  cases step with
  | trigger action =>
    simp only [TimedPanel.step, hlive, if_true]
    exact cleared_schedule _ _ _ _
  | waitIdle =>
    simp only [TimedPanel.step, hlive, if_true] at hclears ⊢
    split
    · exact cleared_waitIdle setting s horizon
    · rename_i hblocked
      simp [hblocked, Step.clears] at hclears
  | _ => cases hclears

/-- A session keeps track of when its panel was cleared. -/
theorem keepsSince_after {mark : Nat} (hcoherent : Coherent setting.config s.panel)
    (hkeeps : s.panel.KeepsSince mark) (hmark : mark ≤ s.panel.log.length) {steps : List Step}
    (hlive : (s.after setting horizon steps).live = true) :
    (s.after setting horizon steps).panel.KeepsSince (s.clearedAt setting horizon mark steps) := by
  induction steps generalizing s mark with
  | nil => exact hkeeps
  | cons step rest ih =>
    have hnext : (s.step setting horizon step).1.live = true := live_of_live_after hlive
    have hcoherent' : Coherent setting.config (s.step setting horizon step).1.panel :=
      (reaches_step setting horizon s step hnext).coherent hcoherent
    refine ih hcoherent' ?_ ?_ hlive
    · cases hclears : step.clears (s.step setting horizon step).2
      · exact hkeeps.works hmark (works_step hnext hclears)
      · exact hcoherent'.keepsSince (cleared_step (live_of_live_step hnext) hclears)
    · have hlog := (log_prefix_after setting horizon s [step]).length_le
      split
      · exact Nat.le_refl _
      · exact Nat.le_trans hmark hlog

end

/-- **The number of outstanding tasks is exact, and finished tasks do not pile up.** In every
session, and however the moves of tasks mix: the tasks on a panel are those that have not come to
their end and those that came to it since the panel was cleared last, by a trigger or by a wait.
Right after a trigger only unfinished tasks are left, its own included, and no task has moved; after
a wait no task is left, and after one that was cut short no finished task; no other step changes the
number. -/
theorem outstanding_exact (setting : PanelSetting) (horizon : Option Nat)
    (environment : Environment) :
    (∀ moves : List Move,
      let panel := play setting.config {} moves
      panel.reap.Cleared ∧
      ∀ instant due action,
        let next := panel.schedule instant due action
        Triggered panel next ∧ next.Cleared) ∧
    (∀ moves rest : List Move,
      let cleared := play setting.config {} moves
      let panel := cleared.play setting.config rest
      cleared.Cleared → (∀ m ∈ rest, m.isOfTask = true) →
        panel.outstanding = cleared.outstanding ∧
        panel.outstanding =
          panel.unfinished.length + (panel.endedSince cleared.log.length).length) ∧
    ∀ steps : List Step,
      let start : TimedPanel := { environment }
      let s := start.after setting horizon steps
      s.live = true →
        s.panel.outstanding = s.panel.unfinished.length +
          (s.panel.endedSince (start.clearedAt setting horizon 0 steps)).length ∧
        (∀ action, Triggered s.panel (s.trigger setting action).panel) ∧
        (∀ limit, (s.waitIdle setting limit).1.panel.Cleared ∧
          ((s.waitIdle setting limit).2 = true →
            (s.waitIdle setting limit).1.panel.outstanding = 0)) ∧
        ∀ step : Step,
          let next := (s.step setting horizon step).1
          let answer := (s.step setting horizon step).2
          next.live = true → step.clears answer = false →
            next.panel.outstanding = s.panel.outstanding := by
  refine ⟨?_, ?_, ?_⟩
  · intro moves panel
    have hcoherent : Coherent setting.config panel := coherent_play setting.config moves
    refine ⟨cleared_reap panel, fun instant due action => ?_⟩
    exact ⟨hcoherent.triggered instant due action, cleared_schedule panel instant due action⟩
  · intro moves rest cleared panel hcleared hrest
    have hstart : Coherent setting.config cleared := coherent_play setting.config moves
    have hworks : Works setting.config cleared panel := ⟨rest, hrest, rfl⟩
    have hkeeps := (hstart.keepsSince hcleared).works (Nat.le_refl _) hworks
    exact ⟨hworks.outstanding, (hstart.play rest).outstanding_eq hkeeps⟩
  · intro steps start s hlive
    have hstart : Coherent setting.config start.panel := Coherent.start setting.config
    have hcoherent : Coherent setting.config s.panel :=
      (reaches_after setting horizon start steps hlive).coherent hstart
    have hnone : start.panel.Cleared := fun task hmem => by cases hmem
    have hkeeps := keepsSince_after hstart (hstart.keepsSince hnone) (Nat.le_refl _) hlive
    refine ⟨hcoherent.outstanding_eq hkeeps, ?_, ?_, ?_⟩
    · intro action
      exact hcoherent.triggered _ _ action
    · intro limit
      exact ⟨cleared_waitIdle setting s limit, outstanding_waitIdle⟩
    · intro step next answer hnext hsame
      exact (works_step hnext hsame).outstanding

/-- Of two tasks the first finds no token. It stays on the panel until there is another trigger. -/
theorem outstanding_exact_abandoned :
    let setting : PanelSetting := ⟨.standard, .fixed ⟨['t']⟩, .holding⟩
    let cleared := play setting.config {} [.schedule 0 5 .create, .schedule 1 6 .update]
    let rest : List Move := [.begin 5 0, .proceed (fun _ => .held) 5 0 (.error .empty)]
    let panel := cleared.play setting.config rest
    let s := ({} : TimedPanel).after setting none [.trigger .create, .render]
    cleared.Cleared ∧ (∀ m ∈ rest, m.isOfTask = true) ∧
    panel.unfinished = [1] ∧ panel.endedSince cleared.log.length = [0] ∧ panel.outstanding = 2 ∧
    Triggered panel (panel.schedule 7 12 .create) ∧
    s.live = true ∧ s.panel.outstanding =
      s.panel.unfinished.length + (s.panel.endedSince 1).length := by
  intro setting cleared rest panel s
  obtain ⟨hmoves, hrest, hsessions⟩ := outstanding_exact setting none {}
  have hcleared : cleared.Cleared := by simp only [Cleared]; decide
  have htasks : ∀ m ∈ rest, m.isOfTask = true := by simp [rest, Move.isOfTask]
  have hopen : panel.unfinished = [1] := by decide
  have hended : panel.endedSince cleared.log.length = [0] := by decide
  have hlive : s.live = true := rfl
  refine ⟨hcleared, htasks, hopen, hended, ?_, ?_, hlive, ?_⟩
  · have hall := (hrest [.schedule 0 5 .create, .schedule 1 6 .update] rest hcleared htasks).2
    exact hall.trans (by rw [hopen, hended]; rfl)
  · have hplay := (hmoves ([.schedule 0 5 .create, .schedule 1 6 .update] ++ rest)).2 7 12 .create
    exact hplay.1
  · exact (hsessions [.trigger .create, .render] hlive).1

end TimedPanel
end PersonGate
