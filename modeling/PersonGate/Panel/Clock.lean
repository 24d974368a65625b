import PersonGate.Panel.Progress
/-!
# A panel on a clock

A timed panel moves by itself: at its instant a waiting task is dispatched and a request that has
taken too long is given up. Everything that is due at one instant happens in two rounds. In the
first, tasks move in the order of their triggers; in the second, the requests that have a reply by
then end in the same order. The clock stops at every instant at which something is due, so nothing
is late, and it goes on until nothing is due up to a limit (`runUntil`).

A panel that was taken down or dropped has lost its tasks, so nothing of it moves any more; its log
and its last status stay.
-/
namespace PersonGate

/-- What a panel works with: its configuration, its source of tokens and the other side. -/
structure PanelSetting where
  config : ClientConfig
  source : TokenSource
  endpoint : Endpoint

/-- A panel, the clock and the environment. -/
structure TimedPanel where
  /-- Nanoseconds since the clock started. -/
  now : Nat := 0
  environment : Environment := {}
  panel : ActionPanel := {}
  /-- Is the panel still there? -/
  live : Bool := true
  deriving Repr

namespace TimedPanel

/-- Is a task in this phase due by an instant? -/
def isDue (instant : Nat) (task : Task) : Bool :=
  match task.phase.wakesAt? with
  | some t => t ≤ instant
  | none => false

/-- The reply that has come in for a task. -/
def reply? (task : Task) : Option Reply :=
  match task.phase with
  | .inFlight _ (.answered reply) => some reply
  | _ => none

/-- What the token source can see now. -/
def tokenCall (s : TimedPanel) : TokenCall :=
  ⟨ActionPanel.tokenCalls s.panel.log, s.now, s.environment⟩

/-- The move that a task makes when it is due. -/
def wake (setting : PanelSetting) (s : TimedPanel) (task : Task) : TimedPanel :=
  match task.phase with
  | .waiting _ =>
    { s with
      panel := s.panel.dispatch setting.config (setting.endpoint.receive s.now) s.now task.id
        (setting.source s.tokenCall) }
  | .inFlight _ _ => { s with panel := s.panel.resolve s.now task.id (.error .timedOut) }
  | .asking | .finished => s

/-- The end of a request whose reply has come in. -/
def deliver (s : TimedPanel) (task : Task) : TimedPanel :=
  match reply? task with
  | some reply => { s with panel := s.panel.resolve s.now task.id reply.result }
  | none => s

/-- First every task that is due moves, then the replies that are there by then are delivered. -/
def runDue (setting : PanelSetting) (s : TimedPanel) : TimedPanel :=
  let woken := (s.panel.tasks.filter (isDue s.now)).foldl (wake setting) s
  woken.panel.tasks.foldl deliver woken

/-- The next instant at which something is due, unless it is after the limit. -/
def next? (s : TimedPanel) (limit : Option Nat) : Option Nat :=
  ((s.panel.tasks.filterMap fun task => task.phase.wakesAt?).min?).filter fun t =>
    limit.all fun l => t ≤ l

/-! ## Time passes only while there is work -/

theorem movesLeft_wake_le (setting : PanelSetting) (s : TimedPanel) (task : Task) :
    (wake setting s task).panel.movesLeft ≤ s.panel.movesLeft := by
  unfold wake
  split
  · exact (ActionPanel.movesLeft_dispatch _ _ _ _ _ _).1
  · exact (ActionPanel.movesLeft_resolve _ _ _ _).1
  · exact Nat.le_refl _
  · exact Nat.le_refl _

theorem movesLeft_deliver_le (s : TimedPanel) (task : Task) :
    (deliver s task).panel.movesLeft ≤ s.panel.movesLeft := by
  unfold deliver
  split
  · exact (ActionPanel.movesLeft_resolve _ _ _ _).1
  · exact Nat.le_refl _

theorem movesLeft_foldl_le {step : TimedPanel → Task → TimedPanel}
    (h : ∀ s task, (step s task).panel.movesLeft ≤ s.panel.movesLeft) (tasks : List Task)
    (s : TimedPanel) : (tasks.foldl step s).panel.movesLeft ≤ s.panel.movesLeft := by
  induction tasks generalizing s with
  | nil => exact Nat.le_refl _
  | cons task rest ih => exact Nat.le_trans (ih _) (h s task)

theorem movesLeft_wake_lt (setting : PanelSetting) {s : TimedPanel} {task : Task}
    (hmem : task ∈ s.panel.tasks) (hdue : isDue s.now task = true) :
    (wake setting s task).panel.movesLeft < s.panel.movesLeft := by
  unfold wake
  split
  · rename_i due hphase
    obtain ⟨other, ho⟩ := ActionPanel.exists_task? hmem (p := TaskPhase.isWaiting)
      (by rw [hphase]; rfl)
    exact (ActionPanel.movesLeft_dispatch _ _ _ _ _ _).2 other ho
  · rename_i deadline reply hphase
    obtain ⟨other, ho⟩ := ActionPanel.exists_task? hmem (p := TaskPhase.isInFlight)
      (by rw [hphase]; rfl)
    exact (ActionPanel.movesLeft_resolve _ _ _ _).2 other ho
  · rename_i hphase
    simp [isDue, hphase, TaskPhase.wakesAt?] at hdue
  · rename_i hphase
    simp [isDue, hphase, TaskPhase.wakesAt?] at hdue

/-- When something is due, running it leaves less to do. -/
theorem movesLeft_runDue_lt (setting : PanelSetting) {s : TimedPanel} {task : Task}
    (hmem : task ∈ s.panel.tasks) (hdue : isDue s.now task = true) :
    (runDue setting s).panel.movesLeft < s.panel.movesLeft := by
  refine Nat.lt_of_le_of_lt (movesLeft_foldl_le movesLeft_deliver_le _ _) ?_
  cases hl : s.panel.tasks.filter (isDue s.now) with
  | nil =>
    have : task ∈ s.panel.tasks.filter (isDue s.now) := List.mem_filter.2 ⟨hmem, hdue⟩
    simp [hl] at this
  | cons first rest =>
    have hf : first ∈ s.panel.tasks.filter (isDue s.now) := by simp [hl]
    have := List.mem_filter.1 hf
    exact Nat.lt_of_le_of_lt (movesLeft_foldl_le (movesLeft_wake_le setting) rest _)
      (movesLeft_wake_lt setting this.1 this.2)

theorem exists_due_of_next? {s : TimedPanel} {limit : Option Nat} {t : Nat}
    (h : s.next? limit = some t) : ∃ task ∈ s.panel.tasks, isDue (max s.now t) task = true := by
  have hmin := (Option.filter_eq_some_iff.1 h).1
  have hm := List.min?_mem hmin
  obtain ⟨task, hmem, hw⟩ := List.mem_filterMap.1 hm
  refine ⟨task, hmem, ?_⟩
  simp only [isDue, hw, decide_eq_true_eq]
  omega

/-- The clock moves to each instant at which something is due, up to the limit, and what is due
then happens. -/
def runUntil (setting : PanelSetting) (limit : Option Nat) (s : TimedPanel) : TimedPanel :=
  match _h : s.next? limit with
  | none => s
  | some t => runUntil setting limit (runDue setting { s with now := max s.now t })
termination_by s.panel.movesLeft
decreasing_by
  obtain ⟨task, hmem, hdue⟩ := exists_due_of_next? _h
  exact movesLeft_runDue_lt setting (s := { s with now := max s.now t }) hmem hdue

theorem runUntil_of_none {setting : PanelSetting} {limit : Option Nat} {s : TimedPanel}
    (h : s.next? limit = none) : runUntil setting limit s = s := by
  rw [runUntil]
  split
  · rfl
  · rename_i hsome
    rw [h] at hsome
    cases hsome

theorem runUntil_of_some {setting : PanelSetting} {limit : Option Nat} {s : TimedPanel} {t : Nat}
    (h : s.next? limit = some t) :
    runUntil setting limit s =
      runUntil setting limit (runDue setting { s with now := max s.now t }) := by
  rw [runUntil]
  split
  · rename_i hnone
    rw [h] at hnone
    cases hnone
  · rename_i t' hsome
    obtain rfl : t = t' := Option.some.inj (h.symm.trans hsome)
    rfl

/-- What stays through the moves of an instant, and does not look at the clock, stays while time
passes. -/
theorem runUntil_preserves {setting : PanelSetting} {limit : Option Nat} {P : TimedPanel → Prop}
    (hdue : ∀ s t, P s → P (runDue setting { s with now := t })) {s : TimedPanel} (h : P s) :
    P (runUntil setting limit s) := by
  induction s using runUntil.induct setting limit with
  | case1 s hnone =>
    rw [runUntil_of_none hnone]
    exact h
  | case2 s t hsome ih =>
    rw [runUntil_of_some hsome]
    exact ih (hdue s _ h)

/-! ## What is done to a panel -/

/-- A trigger; its task has not run yet, however short the wait. -/
def trigger (setting : PanelSetting) (s : TimedPanel) (action : PersonAction) : TimedPanel :=
  { s with
    panel := s.panel.schedule s.now (s.now + setting.config.actionDelay.nanoseconds) action }

/-- A span of time passes, and what is due in it happens at its instant. -/
def advance (setting : PanelSetting) (s : TimedPanel) (span : Nat) : TimedPanel :=
  { runUntil setting (some (s.now + span)) s with now := s.now + span }

/-- The oldest request with a method that is held without a reply. -/
def held? (s : TimedPanel) (method : Http.Method) : Option Task :=
  s.panel.tasks.find? fun task =>
    task.action.method = method ∧ task.phase.isInFlight ∧ (reply? task).isNone

/-- What is due happens, and then the oldest held request for an action gets a reply; the answer
says whether there was one. -/
def reply (setting : PanelSetting) (s : TimedPanel) (action : PersonAction) (reply : Reply) :
    TimedPanel × Bool :=
  let ready := advance setting s 0
  match ready.held? action.method with
  | some task =>
    ({ ready with panel := ready.panel.resolve ready.now task.id reply.result }, true)
  | none => (ready, false)

/-- What is due happens, and then the clock moves from one instant at which something is due to the
next until there is none up to the horizon. -/
def settle (setting : PanelSetting) (s : TimedPanel) (horizon : Option Nat) : TimedPanel :=
  runUntil setting (horizon.map fun limit => max s.now limit) s

/-- Have all tasks finished? -/
def isIdle (s : TimedPanel) : Bool := s.panel.tasks.all fun task => task.phase.isFinished

/-- Waits for all tasks and forgets each as it finishes. The answer is `false` if some task would
keep waiting beyond the horizon; then the wait is cut short when all that can happen before has
happened. -/
def waitIdle (setting : PanelSetting) (s : TimedPanel) (horizon : Option Nat) :
    TimedPanel × Bool :=
  let settled := settle setting s horizon
  ({ settled with panel := settled.panel.reap }, settled.isIdle)

/-- The panel is dropped and lets go of its tasks. -/
def drop (s : TimedPanel) : TimedPanel := { s with panel := s.panel.release, live := false }

/-- The panel is taken down: it stops its tasks, and then it is dropped. -/
def teardown (s : TimedPanel) : TimedPanel := drop { s with panel := s.panel.abortAll }

end TimedPanel
end PersonGate
