import PersonGate.Proofs.Panel.Outstanding
import PersonGate.Proofs.Panel.Single
/-!
# A wait drains a panel

A wait for all tasks comes to its end when each of them has: the moves that they have before them
are used up one by one, while the clock goes from one instant to the next. What could keep it
waiting is a request that is held for ever and has no time limit (`Orderly.waitIdle_iff_none_held`).
If every such request gets its reply some time, then a wait ends at last, whatever else happens
meanwhile: as long as there is work left some task leaves its phase, and then less work is left
(`exists_weight_eq_zero`). A panel without tasks is `Drained`: everything triggered has run to its
end, and the status is the last result. The headline is `waitIdle_drains`.
-/
namespace PersonGate
namespace ActionPanel

/-- Everything is done on the panel. -/
structure Drained (config : ClientConfig) (panel : ActionPanel) : Prop where
  outstanding : panel.outstanding = 0
  pending : panel.board.activity.pending = 0
  inFlight : panel.board.activity.inFlight = 0
  /-- Every trigger has run to its end. -/
  ended : ∀ id < panel.triggers, ∃ action answer,
    Course config action answer (eventsOf panel.log id)
  idle_iff : panel.status = .idle ↔ panel.triggers = 0
  /-- After some trigger the status is the result that was announced last. -/
  result : 0 < panel.triggers → lastResult? panel.log = some panel.status ∧
    (panel.status = .succeeded ∨ panel.status = .failed)

/-- A finished story is a whole course. -/
theorem Story.completes {config : ClientConfig} {action : PersonAction} {events : List TaskEvent}
    (h : Story config action .finished events) : ∃ answer, Course config action answer events := by
  cases h with
  | abandoned cause => exact ⟨.error cause, .abandoned cause⟩
  | ended token arrived result =>
    exact ⟨.ok token, .ofRequest config action token arrived result⟩

/-- A panel without tasks is drained. -/
theorem Coherent.drained {config : ClientConfig} {panel : ActionPanel} (h : Coherent config panel)
    (hidle : panel.outstanding = 0) : Drained config panel := by
  have htasks : panel.tasks = [] := List.length_eq_zero_iff.1 hidle
  have hpending : panel.board.activity.pending = 0 := by rw [h.pending, htasks]; rfl
  have hflight : panel.board.activity.inFlight = 0 := by rw [h.inFlight, htasks]; rfl
  constructor
  case outstanding => exact hidle
  case pending => exact hpending
  case inFlight => exact hflight
  case ended =>
    intro id hid
    obtain ⟨action, hs⟩ := h.story_of_outstanding hidle (List.mem_range.2 hid)
    obtain ⟨answer, hcourse⟩ := hs.completes
    exact ⟨action, answer, hcourse⟩
  case idle_iff => exact h.status_iff .idle
  case result =>
    intro htriggers
    have hwaiting : panel.waiting = [] :=
      List.length_eq_zero_iff.1 (h.pending_eq.symm.trans hpending)
    have hway : panel.underWay = [] :=
      List.length_eq_zero_iff.1 (h.inFlight_eq.symm.trans hflight)
    obtain ⟨status, hlast⟩ := exists_lastResult htriggers hwaiting hway
    have hstatus : panel.status = status := by
      rw [h.status_of_finished (by simp [htasks]), hlast, Option.getD_some]
    rw [hstatus]
    exact ⟨hlast, h.result_of_last hlast⟩

/-! ## Work that is left -/

/-- The tasks are the same as before, or they weigh less. -/
def Eased (weight : List Task → Nat) (before after : List Task) : Prop :=
  after = before ∨ weight after < weight before

namespace Eased
variable {weight : List Task → Nat} {first second third : List Task}

theorem refl (weight : List Task → Nat) (tasks : List Task) : Eased weight tasks tasks := .inl rfl

theorem trans (h : Eased weight first second) (h' : Eased weight second third) :
    Eased weight first third := by
  rcases h with rfl | hless
  · exact h'
  · rcases h' with rfl | hless'
    · exact .inr hless
    · exact .inr (Nat.lt_trans hless' hless)

end Eased

/-- The moves that the tasks have before them. -/
def movesOf (tasks : List Task) : Nat := total (fun task => task.phase.movesLeft) tasks

/-- A move of a task changes no task, or it leaves less to do. -/
theorem eased_move (config : ClientConfig) (panel : ActionPanel) {m : Move}
    (h : m.isOfTask = true) : Eased movesOf panel.tasks (panel.move config m).tasks := by
  cases m with
  | schedule | collect => cases h
  | begin instant id =>
    cases ht : panel.task? id TaskPhase.isWaiting with
    | none =>
      left
      simp only [move, ActionPanel.begin, ht]
    | some task => exact .inr ((movesLeft_begin panel instant id).2 task ht)
  | proceed receive instant id answer =>
    cases ht : panel.task? id TaskPhase.isAsking with
    | none =>
      left
      simp only [move, ActionPanel.proceed, ht]
    | some task =>
      exact .inr ((movesLeft_proceed panel config receive instant id answer).2 task ht)
  | resolve instant id result =>
    cases ht : panel.task? id TaskPhase.isInFlight with
    | none =>
      left
      simp only [move, ActionPanel.resolve, ht]
    | some task => exact .inr ((movesLeft_resolve panel instant id result).2 task ht)

/-- In a run in which only tasks move, none has moved or less is left to do. -/
theorem Works.eased {config : ClientConfig} {panel next : ActionPanel}
    (h : Works config panel next) : Eased movesOf panel.tasks next.tasks := by
  apply h.preserves (P := fun other => Eased movesOf panel.tasks other.tasks)
  · exact fun other m hm hother => hother.trans (eased_move config other hm)
  · exact Eased.refl _ _

/-- The moves that the tasks have before them, and their leaving the panel. -/
def workLeft (tasks : List Task) : Nat := movesOf tasks + tasks.length

/-- A move that is no trigger changes no task, or it leaves less work. -/
theorem eased_move_of_no_trigger (config : ClientConfig) (panel : ActionPanel) {m : Move}
    (h : m.action? = none) : Eased workLeft panel.tasks (panel.move config m).tasks := by
  by_cases htask : m.isOfTask = true
  · have hlength : (panel.move config m).tasks.length = panel.tasks.length :=
      (Works.one htask).outstanding
    rcases eased_move config panel htask with hsame | hless
    · exact .inl hsame
    · right
      rw [workLeft, workLeft, hlength]
      omega
  · cases m with
    | schedule => cases h
    | begin | proceed | resolve => exact absurd rfl htask
    | collect chosen =>
      have hsub : (panel.collect chosen).tasks.Sublist panel.tasks := List.filter_sublist
      by_cases hlength : (panel.collect chosen).tasks.length = panel.tasks.length
      · exact .inl (hsub.eq_of_length hlength)
      · right
        have hle := hsub.length_le
        have hmoves : movesOf (panel.collect chosen).tasks ≤ movesOf panel.tasks :=
          total_filter_le _ _ panel.tasks
        show workLeft (panel.collect chosen).tasks < _
        rw [workLeft, workLeft]
        omega

/-- Each step of an endless run leaves the tasks as they are or makes them weigh less. If, as long
as they weigh something, one of them does not stay as it is for ever, then they weigh nothing at
last. -/
theorem exists_weight_eq_zero (tasks : Nat → List Task) (weight : List Task → Nat)
    (hstep : ∀ n, Eased weight (tasks n) (tasks (n + 1)))
    (hleaves : ∀ n, weight (tasks n) ≠ 0 → ∃ task ∈ tasks n, ∃ m, n ≤ m ∧ task ∉ tasks m) :
    ∃ n, weight (tasks n) = 0 := by
  have hlater : ∀ n m, n ≤ m → Eased weight (tasks n) (tasks m) := by
    intro n m hle
    induction hle with
    | refl => exact Eased.refl _ _
    | step _ ih => exact ih.trans (hstep _)
  -- by induction on the weight from which the run starts
  have hzero : ∀ w n, weight (tasks n) = w → ∃ m, weight (tasks m) = 0 := by
    intro w
    induction w using Nat.strongRecOn with
    | ind w ih =>
      intro n hw
      by_cases hn : weight (tasks n) = 0
      · exact ⟨n, hn⟩
      · obtain ⟨task, hmem, m, hle, hgone⟩ := hleaves n hn
        rcases hlater n m hle with hsame | hless
        · rw [hsame] at hgone
          exact absurd hmem hgone
        · exact ih _ (hw ▸ hless) m rfl
  exact hzero _ 0 rfl

section
variable {config : ClientConfig} {panel : ActionPanel} {run : Nat → Move}

theorem play_succ (n : Nat) : panel.play config ((List.range (n + 1)).map run) =
    (panel.play config ((List.range n).map run)).move config (run n) := by
  rw [List.range_succ, List.map_append, play, List.foldl_append]
  rfl

theorem triggers_play_of_no_trigger (hrun : ∀ n, (run n).action? = none) (n : Nat) :
    (panel.play config ((List.range n).map run)).triggers = panel.triggers := by
  induction n with
  | zero => rfl
  | succ n ih =>
    rw [play_succ, triggers_move, hrun, ih]
    rfl

/-- If nothing more is triggered and no task stays in one phase for ever, the panel is drained some
time. -/
theorem Coherent.exists_drained (h : Coherent config panel) (hrun : ∀ n, (run n).action? = none)
    (hleaves : ∀ n, ∀ task ∈ (panel.play config ((List.range n).map run)).tasks,
      ∃ m, n ≤ m ∧ task ∉ (panel.play config ((List.range m).map run)).tasks) :
    ∃ n, Drained config (panel.play config ((List.range n).map run)) := by
  have hwork : ∃ n, workLeft (panel.play config ((List.range n).map run)).tasks = 0 := by
    apply exists_weight_eq_zero (fun n => (panel.play config ((List.range n).map run)).tasks)
    · intro n
      rw [play_succ]
      exact eased_move_of_no_trigger config _ (hrun n)
    · intro n hwork
      have hsome : (panel.play config ((List.range n).map run)).tasks ≠ [] := by
        intro hnil
        rw [hnil] at hwork
        exact hwork rfl
      obtain ⟨task, hmem⟩ := List.exists_mem_of_ne_nil _ hsome
      exact ⟨task, hmem, hleaves n task hmem⟩
  obtain ⟨n, hn⟩ := hwork
  refine ⟨n, (h.play _).drained ?_⟩
  rw [workLeft] at hn
  rw [outstanding]
  omega

end
end ActionPanel

/-! ## Waits -/

namespace TimedPanel
open ActionPanel

variable {setting : PanelSetting} {horizon : Option Nat} {s : TimedPanel}

/-- A task that has not finished waits until some instant, or its request is held; neither is for
longer than the clock allows. -/
theorem Orderly.open_cases {config : ClientConfig} {made : List (Nat × PersonAction)}
    (h : Orderly config made s) {task : Task} (hmem : task ∈ s.panel.tasks)
    (hopen : task.phase.isFinished = false) :
    (∃ due, task.phase = .waiting due ∧ s.now ≤ due) ∨
      ∃ limit t, task.phase = .inFlight limit .held ∧ limit = deadline config t ∧
        ∀ d, limit = some d → s.now ≤ d := by
  have hown : (task.action, task.phase) ∈ (s.panel.track task.id).tasks :=
    List.mem_filterMap.2 ⟨task, hmem, by simp [open?, hopen]⟩
  rcases Nat.lt_or_ge task.id made.length with hid | hid
  · obtain ⟨phase, htimeline, htasks, -, hahead⟩ :=
      h.timely task.id _ _ (List.getElem?_eq_getElem hid)
    rw [htasks] at hown
    split at hown
    · rename_i hthere
      obtain ⟨-, hphase⟩ : task.action = made[task.id].2 ∧ task.phase = phase := by
        simpa using hown
      rw [Track.wakesAt?, htasks, if_pos hthere] at hahead
      rw [hphase] at hopen ⊢
      generalize (s.panel.track task.id).history = history at htimeline
      cases htimeline with
      | waiting => exact .inl ⟨_, rfl, hahead _ rfl⟩
      | held token => exact .inr ⟨_, _, rfl, rfl, fun d hd => hahead d hd⟩
      | abandoned | ended => cases hopen
    · cases hown
  · rw [h.fresh task.id hid] at hown
    cases hown

/-- A wait without a horizon ends, unless some request is held that will not be given up. -/
theorem Orderly.waitIdle_iff_none_held {made : List (Nat × PersonAction)}
    (h : Orderly setting.config made s) :
    (s.waitIdle setting none).2 = true ↔
      ∀ task ∈ (s.settle setting none).panel.tasks, task.phase ≠ .inFlight none .held := by
  have hsettled : Orderly setting.config made (s.settle setting none) := by
    rw [settle_eq_advance]
    exact h.advance _
  have hnone : (s.settle setting none).next? none = none := next?_runUntil setting none s
  show (s.settle setting none).isIdle = true ↔ _
  rw [isIdle, List.all_eq_true]
  constructor
  · intro hidle task hmem hheld
    have hfinished := hidle task hmem
    rw [hheld] at hfinished
    cases hfinished
  · intro hheld task hmem
    by_contra hopen
    -- whatever has an instant to wake at would not have come to rest
    have hrest : ∀ w, task.phase.wakesAt? ≠ some w := fun w hw =>
      next?_eq_none hnone hmem hw (by rintro l ⟨⟩)
    rcases hsettled.open_cases hmem (Bool.eq_false_iff.2 hopen) with
      ⟨due, hphase, -⟩ | ⟨limit, t, hphase, -, -⟩
    · exact hrest due (by rw [hphase]; rfl)
    · cases limit with
      | none => exact hheld task hmem hphase
      | some d => exact hrest d (by rw [hphase]; rfl)

/-- With a time limit for requests every one of them is given up some time. -/
theorem Orderly.ne_held_of_requestTimeout {config : ClientConfig}
    {made : List (Nat × PersonAction)} (h : Orderly config made s)
    (hlimit : config.requestTimeout.isSome = true) {task : Task} (hmem : task ∈ s.panel.tasks) :
    task.phase ≠ .inFlight none .held := by
  intro hphase
  rcases h.open_cases hmem (by rw [hphase]; rfl) with ⟨due, hwaiting, -⟩ | ⟨_, t, hheld, rfl, -⟩
  · rw [hphase] at hwaiting
    cases hwaiting
  · rw [hphase] at hheld
    obtain ⟨limit, hsome⟩ := Option.isSome_iff_exists.1 hlimit
    simp [deadline, hsome] at hheld

theorem drained_waitIdle {limit : Option Nat} (h : Coherent setting.config s.panel)
    (hidle : (s.waitIdle setting limit).2 = true) :
    Drained setting.config (s.waitIdle setting limit).1.panel := by
  have hthere : Coherent setting.config (s.waitIdle setting limit).1.panel :=
    (reaches_waitIdle setting s limit).coherent h
  exact hthere.drained (outstanding_waitIdle hidle)

/-- When nothing is left to do, a wait ends at once. -/
theorem waitIdle_of_movesLeft (h : s.panel.movesLeft = 0) (limit : Option Nat) :
    (s.waitIdle setting limit).2 = true := by
  have hworks := works_settle setting s limit
  have hnone : (s.settle setting limit).panel.movesLeft = 0 := by
    rcases hworks.eased with hsame | hless
    · rw [movesLeft, hsame]
      exact h
    · exact absurd h (Nat.ne_of_gt (Nat.zero_lt_of_lt hless))
  exact List.all_eq_true.2 (movesLeft_eq_zero_iff.1 hnone)

/-! ## What happens during a wait -/

/-- What can happen while a wait has the panel to itself. -/
def Step.isOutside : Step → Bool
  | .advance _ | .reply _ _ | .setVariable _ _ | .unsetVariable _ => true
  | _ => false

/-- A session after so many steps of an endless row. -/
def during (setting : PanelSetting) (horizon : Option Nat) (s : TimedPanel) (world : Nat → Step)
    (n : Nat) : TimedPanel := s.after setting horizon ((List.range n).map world)

section
variable {world : Nat → Step}

theorem during_succ (n : Nat) : s.during setting horizon world (n + 1) =
    ((s.during setting horizon world n).step setting horizon (world n)).1 := by
  rw [during, List.range_succ, List.map_append, after_append]
  rfl

theorem live_step_of_isOutside {step : Step} (h : step.isOutside = true) :
    (s.step setting horizon step).1.live = s.live := by
  cases step with
  | advance span => exact live_advance setting s span
  | reply action reply => exact live_reply setting s action reply
  | setVariable | unsetVariable => rfl
  | _ => cases h

theorem clears_of_isOutside {step : Step} (h : step.isOutside = true) (answer : Answer) :
    step.clears answer = false := by
  cases step with
  | trigger | waitIdle => cases h
  | _ => rfl

theorem live_during (hlive : s.live = true) (hworld : ∀ n, (world n).isOutside = true) (n : Nat) :
    (s.during setting horizon world n).live = true := by
  induction n with
  | zero => exact hlive
  | succ n ih => rw [during_succ, live_step_of_isOutside (hworld n), ih]

theorem works_during_succ (hlive : s.live = true) (hworld : ∀ n, (world n).isOutside = true)
    (n : Nat) : Works setting.config (s.during setting horizon world n).panel
      (s.during setting horizon world (n + 1)).panel := by
  have hnext : (s.during setting horizon world (n + 1)).live = true :=
    live_during hlive hworld (n + 1)
  rw [during_succ] at hnext ⊢
  exact works_step hnext (clears_of_isOutside (hworld n) _)

theorem triggers_during (hlive : s.live = true) (hworld : ∀ n, (world n).isOutside = true)
    (n : Nat) : (s.during setting horizon world n).panel.triggers = s.panel.triggers := by
  induction n with
  | zero => rfl
  | succ n ih => rw [(works_during_succ hlive hworld n).triggers, ih]

theorem le_now_during {n m : Nat} (h : n ≤ m) :
    (s.during setting horizon world n).now ≤ (s.during setting horizon world m).now := by
  induction h with
  | refl => exact Nat.le_refl _
  | step _ ih =>
    refine Nat.le_trans ih ?_
    rw [during_succ]
    exact le_now_step setting horizon _ _

/-- If the clock goes on and on, and no request is held for ever without a time limit, then some
time nothing is left to do. -/
theorem Orderly.exists_movesLeft_eq_zero {made : List (Nat × PersonAction)}
    (h : Orderly setting.config made s) (hlive : s.live = true)
    (hworld : ∀ n, (world n).isOutside = true)
    (hclock : ∀ t, ∃ n, t ≤ (s.during setting horizon world n).now)
    (hreplies : ∀ n, ∀ task ∈ (s.during setting horizon world n).panel.tasks,
      task.phase = .inFlight none .held →
        ∃ m, n ≤ m ∧ task ∉ (s.during setting horizon world m).panel.tasks) :
    ∃ n, (s.during setting horizon world n).panel.movesLeft = 0 := by
  apply exists_weight_eq_zero (fun n => (s.during setting horizon world n).panel.tasks) movesOf
  · exact fun n => (works_during_succ hlive hworld n).eased
  · intro n hwork
    obtain ⟨task, hmem, hopen⟩ : ∃ task ∈ (s.during setting horizon world n).panel.tasks,
        task.phase.isFinished = false := by
      have hsome := mt movesLeft_eq_zero_iff.2 hwork
      simpa using hsome
    refine ⟨task, hmem, ?_⟩
    have horderly : ∀ m, ∃ more, Orderly setting.config (made ++ more)
        (s.during setting horizon world m) := fun m => h.after horizon _
    -- a task that wakes at an instant is not there as it was when that instant is over
    have hwakes : ∀ w, task.phase.wakesAt? = some w →
        ∃ m, n ≤ m ∧ task ∉ (s.during setting horizon world m).panel.tasks := by
      intro w hw
      obtain ⟨k, hk⟩ := hclock (w + 1)
      refine ⟨max n k, Nat.le_max_left n k, fun hthere => ?_⟩
      have hlater : w < (s.during setting horizon world (max n k)).now :=
        Nat.le_trans hk (le_now_during (Nat.le_max_right n k))
      obtain ⟨more, hmore⟩ := horderly (max n k)
      rcases hmore.open_cases hthere hopen with ⟨due, hphase, hdue⟩ | ⟨limit, t, hphase, -, hlimit⟩
      · rw [hphase] at hw
        obtain rfl : due = w := Option.some.inj hw
        omega
      · rw [hphase] at hw
        have := hlimit w hw
        omega
    obtain ⟨more, hmore⟩ := horderly n
    rcases hmore.open_cases hmem hopen with ⟨due, hphase, -⟩ | ⟨limit, t, hphase, -, -⟩
    · exact hwakes due (by rw [hphase]; rfl)
    · cases limit with
      | none => exact hreplies n task hmem hphase
      | some d => exact hwakes d (by rw [hphase]; rfl)

end

/-- **A wait drains the panel.** Whatever a session did before: when a wait ends, the panel is
drained, and no trigger was lost. A wait that nobody disturbs ends unless a request is held to which
no reply comes and that has no time limit; so it ends if requests have one. If replies come in while
it lasts, and each such request gets its reply some time, it ends too. The same holds however the
moves of tasks mix: a panel without tasks is drained, and if no task stays in one phase for ever,
the panel is drained some time. -/
theorem waitIdle_drains (setting : PanelSetting) (horizon : Option Nat)
    (environment : Environment) :
    (∀ steps : List Step,
      let s := ({ environment } : TimedPanel).after setting horizon steps
      s.live = true →
        (∀ limit, (s.waitIdle setting limit).2 = true →
          Drained setting.config (s.waitIdle setting limit).1.panel ∧
          (s.waitIdle setting limit).1.panel.triggers = s.panel.triggers) ∧
        ((s.waitIdle setting none).2 = true ↔
          ∀ task ∈ (s.settle setting none).panel.tasks, task.phase ≠ .inFlight none .held) ∧
        (setting.config.requestTimeout.isSome = true → (s.waitIdle setting none).2 = true) ∧
        ∀ world : Nat → Step,
          let during := s.during setting horizon world
          (∀ n, (world n).isOutside = true) → (∀ t, ∃ n, t ≤ (during n).now) →
          (∀ n, ∀ task ∈ (during n).panel.tasks, task.phase = .inFlight none .held →
            ∃ m, n ≤ m ∧ task ∉ (during m).panel.tasks) →
          ∃ n, ∀ limit, ((during n).waitIdle setting limit).2 = true ∧
            Drained setting.config ((during n).waitIdle setting limit).1.panel ∧
            ((during n).waitIdle setting limit).1.panel.triggers = s.panel.triggers) ∧
    ∀ moves : List Move,
      let panel := play setting.config {} moves
      (panel.outstanding = 0 → Drained setting.config panel) ∧
      ∀ run : Nat → Move,
        let during n := panel.play setting.config ((List.range n).map run)
        (∀ n, (run n).action? = none) →
        (∀ n, ∀ task ∈ (during n).tasks, ∃ m, n ≤ m ∧ task ∉ (during m).tasks) →
        ∃ n, Drained setting.config (during n) ∧ (during n).triggers = panel.triggers := by
  refine ⟨?_, ?_⟩
  · intro steps s hlive
    have hcoherent : Coherent setting.config s.panel :=
      (reaches_after setting horizon _ steps hlive).coherent (Coherent.start setting.config)
    obtain ⟨made, horderly⟩ := (Orderly.start setting.config environment).after horizon steps
    refine ⟨?_, horderly.waitIdle_iff_none_held, ?_, ?_⟩
    · intro limit hidle
      exact ⟨drained_waitIdle hcoherent hidle, triggers_waitIdle setting s limit⟩
    · intro hlimit
      have hsettled : Orderly setting.config _ (s.settle setting none) :=
        settle_eq_advance setting s none ▸ horderly.advance _
      exact horderly.waitIdle_iff_none_held.2 fun task hmem =>
        hsettled.ne_held_of_requestTimeout hlimit hmem
    · intro world during hworld hclock hreplies
      obtain ⟨n, hn⟩ := horderly.exists_movesLeft_eq_zero hlive hworld hclock hreplies
      refine ⟨n, fun limit => ?_⟩
      have hidle : ((during n).waitIdle setting limit).2 = true := waitIdle_of_movesLeft hn limit
      have hreaches : Reaches setting.config s.panel (during n).panel :=
        reaches_after setting horizon s _ (live_during hlive hworld n)
      have hthere : Coherent setting.config (during n).panel := hreaches.coherent hcoherent
      exact ⟨hidle, drained_waitIdle hthere hidle,
        (triggers_waitIdle setting _ limit).trans (triggers_during hlive hworld n)⟩
  · intro moves panel
    have hcoherent : Coherent setting.config panel := coherent_play setting.config moves
    refine ⟨hcoherent.drained, ?_⟩
    intro run during hrun hleaves
    obtain ⟨n, hn⟩ := hcoherent.exists_drained hrun hleaves
    exact ⟨n, hn, triggers_play_of_no_trigger hrun n⟩

/-- A request that is held is given up at its time limit while the clock goes on by a nanosecond at
a time, and then the wait ends. -/
theorem waitIdle_drains_given_up :
    let setting : PanelSetting :=
      ⟨⟨[], .ofMilliseconds 1, some (.ofMilliseconds 2)⟩, .fixed ⟨['t']⟩, .holding⟩
    let s := ({} : TimedPanel).after setting none [.trigger .create]
    let world : Nat → Step := fun _ => .advance 1
    let during := s.during setting none world
    s.live = true ∧ (∀ n, (world n).isOutside = true) ∧ (∀ t, ∃ n, t ≤ (during n).now) ∧
    (∀ n, ∀ task ∈ (during n).panel.tasks, task.phase ≠ .inFlight none .held) ∧
    ∃ n, ((during n).waitIdle setting none).2 = true ∧
      ((during n).waitIdle setting none).1.panel.triggers = 1 := by
  intro setting s world during
  have hlive : s.live = true := rfl
  have hworld : ∀ n, (world n).isOutside = true := fun _ => rfl
  have hnow : ∀ n, (during n).now = n := by
    intro n
    induction n with
    | zero => rfl
    | succ n ih =>
      have hnext : (during (n + 1)).now = (during n).now + 1 := by
        show (s.during setting none world (n + 1)).now = _
        rw [during_succ]
        rfl
      rw [hnext, ih]
  have hheld : ∀ n, ∀ task ∈ (during n).panel.tasks, task.phase ≠ .inFlight none .held := by
    intro n task hmem
    obtain ⟨_, hstart⟩ := (Orderly.start setting.config {}).after none [.trigger .create]
    obtain ⟨_, horderly⟩ := hstart.after none ((List.range n).map world)
    exact horderly.ne_held_of_requestTimeout rfl hmem
  have hclock : ∀ t, ∃ n, t ≤ (during n).now := fun t => ⟨t, Nat.le_of_eq (hnow t).symm⟩
  refine ⟨hlive, hworld, hclock, hheld, ?_⟩
  obtain ⟨-, -, -, hends⟩ := (waitIdle_drains setting none {}).1 [.trigger .create] hlive
  obtain ⟨n, hn⟩ := hends world hworld hclock fun n task hmem hphase =>
    absurd hphase (hheld n task hmem)
  obtain ⟨hidle, -, htriggers⟩ := hn none
  exact ⟨n, hidle, htriggers⟩

end TimedPanel
end PersonGate
