import Mathlib.Data.List.Nodup
import PersonGate.Panel.Progress
/-!
# What every task of a panel has behind it

The log of a panel holds the events of all its tasks mixed; `eventsOf` reads off it what happened to
one. In each phase a task has exactly one thing behind it: its `Story`. A panel is `Coherent` if the
log tells of each task the story of its phase, of each task that was forgotten a finished story, and
of nothing else, and if the two counts of its activity are the numbers of tasks in those phases.
Every move keeps a panel coherent (`Coherent.schedule`, `Coherent.begin`, `Coherent.proceed`,
`Coherent.resolve`, `Coherent.collect`); the moves on one task are all cases of `Coherent.advance`.
-/
namespace PersonGate

/-- Between the start of sending and the end. -/
def TaskPhase.isUnderWay : TaskPhase → Bool
  | .asking | .inFlight _ _ => true
  | .waiting _ | .finished => false

/-- On its way, waiting or at its end: a task is in just one of these. -/
theorem TaskPhase.isUnderWay_iff {phase : TaskPhase} :
    phase.isUnderWay = true ↔ phase.isWaiting = false ∧ phase.isFinished = false := by
  cases phase <;> simp [isUnderWay, isWaiting, isFinished]

theorem TaskPhase.isFinished_of_isWaiting {phase : TaskPhase} (h : phase.isWaiting = true) :
    phase.isFinished = false := by
  obtain ⟨due, rfl⟩ := eq_waiting h
  rfl

/-- The result that is announced. -/
def TaskEvent.result? : TaskEvent → Option PanelStatus
  | .finished status => some status
  | _ => none

namespace ActionPanel

/-! ## Reading one task off the log -/

/-- What the log has on one task. -/
def entriesOf (log : List LogEntry) (id : Nat) : List LogEntry :=
  log.filter fun entry => entry.task == id

/-- What happened to one task, in order. -/
def eventsOf (log : List LogEntry) (id : Nat) : List TaskEvent :=
  (entriesOf log id).map LogEntry.event

/-- The result announced last. -/
def lastResult? (log : List LogEntry) : Option PanelStatus :=
  (readings TaskEvent.result? log).getLast?

theorem eventsOf_append (log more : List LogEntry) (id : Nat) :
    eventsOf (log ++ more) id = eventsOf log id ++ eventsOf more id := by
  simp [eventsOf, entriesOf]

theorem entriesOf_note_self (id instant : Nat) (events : List TaskEvent) :
    entriesOf (events.map fun event => ⟨id, instant, event⟩) id =
      events.map fun event => ⟨id, instant, event⟩ := by
  rw [entriesOf, List.filter_eq_self]
  simp

theorem entriesOf_note_other {id other : Nat} (h : other ≠ id) (instant : Nat)
    (events : List TaskEvent) :
    entriesOf (events.map fun event => ⟨id, instant, event⟩) other = [] := by
  rw [entriesOf, List.filter_eq_nil_iff]
  simp [Ne.symm h]

theorem eventsOf_note_self (id instant : Nat) (events : List TaskEvent) :
    eventsOf (events.map fun event => ⟨id, instant, event⟩) id = events := by
  rw [eventsOf, entriesOf_note_self, List.map_map]
  exact List.map_id _

theorem eventsOf_note_other {id other : Nat} (h : other ≠ id) (instant : Nat)
    (events : List TaskEvent) :
    eventsOf (events.map fun event => ⟨id, instant, event⟩) other = [] := by
  rw [eventsOf, entriesOf_note_other h, List.map_nil]

theorem readings_append {α : Type} (read : TaskEvent → Option α) (log more : List LogEntry) :
    readings read (log ++ more) = readings read log ++ readings read more :=
  List.filterMap_append

theorem readings_note {α : Type} (read : TaskEvent → Option α) (id instant : Nat)
    (events : List TaskEvent) :
    readings read (events.map fun event => ⟨id, instant, event⟩) = events.filterMap read :=
  List.filterMap_map

theorem lastResult?_append_of_nil {events : List TaskEvent}
    (h : events.filterMap TaskEvent.result? = []) (log : List LogEntry) (id instant : Nat) :
    lastResult? (log ++ events.map fun event => ⟨id, instant, event⟩) = lastResult? log := by
  rw [lastResult?, readings_append, readings_note, h, List.append_nil, lastResult?]

theorem lastResult?_append_of_singleton {events : List TaskEvent} {status : PanelStatus}
    (h : events.filterMap TaskEvent.result? = [status]) (log : List LogEntry) (id instant : Nat) :
    lastResult? (log ++ events.map fun event => ⟨id, instant, event⟩) = some status := by
  rw [lastResult?, readings_append, readings_note, h, List.getLast?_concat]

/-- Nothing is known of a task that the log does not mention. -/
theorem eventsOf_eq_nil {log : List LogEntry} {id : Nat} (h : ∀ entry ∈ log, entry.task ≠ id) :
    eventsOf log id = [] := by
  have hnone : entriesOf log id = [] := by
    rw [entriesOf, List.filter_eq_nil_iff]
    simpa using h
  rw [eventsOf, hnone, List.map_nil]

/-! ## Stories -/

/-- What a task for an action has behind it in a phase. -/
inductive Story (config : ClientConfig) (action : PersonAction) :
    TaskPhase → List TaskEvent → Prop where
  | waiting (due : Nat) : Story config action (.waiting due) [.scheduled action]
  | asking : Story config action .asking [.scheduled action, .sending]
  | inFlight (deadline : Option Nat) (reception : Reception) (token : BearerToken) :
    Story config action (.inFlight deadline reception) [.scheduled action, .sending,
      .tokenCall (.ok token), .attempt (config.request token action) reception.arrives]
  /-- There was no token. -/
  | abandoned (cause : TokenError) :
    Story config action .finished [.scheduled action, .sending, .tokenCall (.error cause),
      .finished .failed]
  | ended (token : BearerToken) (arrived : Bool) (result : Except TransportError Http.Status) :
    Story config action .finished [.scheduled action, .sending, .tokenCall (.ok token),
      .attempt (config.request token action) arrived, .ended result,
      .finished (.ofOutcome (.ofResult result)), .notified (.ofResult result)]

/-- The panel and its log agree. -/
structure Coherent (config : ClientConfig) (panel : ActionPanel) : Prop where
  /-- The log tells of triggers that were. -/
  known : ∀ entry ∈ panel.log, entry.task < panel.triggers
  distinct : (panel.tasks.map Task.id).Nodup
  present : ∀ task ∈ panel.tasks, task.id < panel.triggers ∧
    Story config task.action task.phase (eventsOf panel.log task.id)
  /-- Whatever was forgotten had finished. -/
  forgotten : ∀ id < panel.triggers, (∀ task ∈ panel.tasks, task.id ≠ id) →
    ∃ action, Story config action .finished (eventsOf panel.log id)
  pending : panel.board.activity.pending = panel.tasks.countP fun task => task.phase.isWaiting
  inFlight : panel.board.activity.inFlight = panel.tasks.countP fun task => task.phase.isUnderWay
  last : panel.board.activity.last = lastResult? panel.log
  shown : panel.status = panel.board.activity.status

namespace Coherent
variable {config : ClientConfig} {panel : ActionPanel}

theorem start (config : ClientConfig) : Coherent config {} where
  known := by simp
  distinct := by simp
  present := by simp
  forgotten := by simp
  pending := rfl
  inFlight := rfl
  last := rfl
  shown := rfl

/-- Every trigger has a story, and the task is there until it is told to the end. -/
theorem story (h : Coherent config panel) {id : Nat} (hid : id < panel.triggers) :
    ∃ action phase, Story config action phase (eventsOf panel.log id) ∧
      (phase = .finished ∨ ⟨id, action, phase⟩ ∈ panel.tasks) := by
  by_cases hthere : ∃ task ∈ panel.tasks, task.id = id
  · obtain ⟨task, hmem, rfl⟩ := hthere
    exact ⟨task.action, task.phase, (h.present task hmem).2, .inr hmem⟩
  · obtain ⟨action, hs⟩ := h.forgotten id hid fun task hmem he => hthere ⟨task, hmem, he⟩
    exact ⟨action, .finished, hs, .inl rfl⟩

end Coherent

/-! ## A move on one task -/

/-- A new phase goes to one task and leaves those before and after it alone. -/
theorem setPhase_tasks {panel : ActionPanel} (h : (panel.tasks.map Task.id).Nodup) {id : Nat}
    {mayLeave : TaskPhase → Bool} {task : Task} (ht : panel.task? id mayLeave = some task)
    (phase : TaskPhase) :
    ∃ before after, panel.tasks = before ++ task :: after ∧
      (panel.setPhase id mayLeave phase).tasks = before ++ { task with phase := phase } :: after ∧
      ∀ other ∈ before ++ after, other.id ≠ id := by
  obtain ⟨hmem, rfl, hphase⟩ := of_task? ht
  obtain ⟨before, after, hsplit⟩ := List.append_of_mem hmem
  have hother : ∀ other ∈ before ++ after, other.id ≠ task.id := by
    rw [hsplit, List.map_append, List.map_cons, List.nodup_middle, ← List.map_append,
      List.nodup_cons] at h
    intro other ho he
    exact h.1 (he ▸ List.mem_map_of_mem ho)
  have hsame : ∀ l : List Task, (∀ other ∈ l, other.id ≠ task.id) →
      (l.map fun other => if other.id = task.id ∧ mayLeave other.phase then
        { other with phase := phase } else other) = l := by
    intro l hl
    conv_rhs => rw [← List.map_id l]
    exact List.map_congr_left fun other ho => by simp [hl other ho]
  refine ⟨before, after, hsplit, ?_, hother⟩
  simp only [setPhase, hsplit, List.map_append, List.map_cons]
  rw [hsame before fun other ho => hother other (List.mem_append_left _ ho),
    hsame after fun other ho => hother other (List.mem_append_right _ ho)]
  simp [hphase]

namespace Coherent
variable {config : ClientConfig} {panel : ActionPanel}

/-- A task goes on to another phase, its new events go to the log, and the board follows. -/
theorem advance (h : Coherent config panel) {id : Nat} {mayLeave : TaskPhase → Bool} {task : Task}
    (ht : panel.task? id mayLeave = some task) {phase : TaskPhase} {events : List TaskEvent}
    (hstory : Story config task.action phase (eventsOf panel.log id ++ events)) (instant : Nat)
    {board : StatusBoard}
    (hpending : board.activity.pending + (if task.phase.isWaiting then 1 else 0) =
      panel.board.activity.pending + if phase.isWaiting then 1 else 0)
    (hflight : board.activity.inFlight + (if task.phase.isUnderWay then 1 else 0) =
      panel.board.activity.inFlight + if phase.isUnderWay then 1 else 0)
    (hlast : board.activity.last =
      lastResult? (panel.log ++ events.map fun event => ⟨id, instant, event⟩))
    (hshown : board.current = board.activity.status) :
    Coherent config
      (({ panel with board := board }.note id instant events).setPhase id mayLeave phase) := by
  obtain ⟨hmem, rfl, hphase⟩ := of_task? ht
  obtain ⟨before, after, htasks, htasks', hother⟩ := setPhase_tasks h.distinct ht phase
  have hnew : (({ panel with board := board }.note task.id instant events).setPhase task.id mayLeave
      phase).tasks = before ++ { task with phase := phase } :: after := htasks'
  have hsame : ∀ other, other ≠ task.id → eventsOf (panel.log ++ events.map fun event =>
      ⟨task.id, instant, event⟩) other = eventsOf panel.log other := by
    intro other ho
    rw [eventsOf_append, eventsOf_note_other ho, List.append_nil]
  constructor
  case known =>
    intro entry he
    rcases List.mem_append.1 he with he | he
    · exact h.known entry he
    · obtain ⟨event, -, rfl⟩ := List.mem_map.1 he
      exact (h.present task hmem).1
  case distinct =>
    rw [hnew, List.map_append, List.map_cons]
    have := h.distinct
    rwa [htasks, List.map_append, List.map_cons] at this
  case present =>
    rw [hnew]
    intro other ho
    have hcases : other = { task with phase := phase } ∨ other ∈ before ++ after := by
      simp only [List.mem_append, List.mem_cons] at ho ⊢
      tauto
    rcases hcases with rfl | ho'
    · refine ⟨(h.present task hmem).1, ?_⟩
      show Story config task.action phase (eventsOf (panel.log ++ _) task.id)
      rw [eventsOf_append, eventsOf_note_self]
      exact hstory
    · have hold : other ∈ panel.tasks := by
        rw [htasks]
        simp only [List.mem_append, List.mem_cons] at ho' ⊢
        tauto
      refine ⟨(h.present other hold).1, ?_⟩
      show Story config other.action other.phase (eventsOf (panel.log ++ _) other.id)
      rw [hsame _ (hother other ho')]
      exact (h.present other hold).2
  case forgotten =>
    rw [hnew]
    intro other ho hnone
    have hne : other ≠ task.id := by
      rintro rfl
      exact hnone { task with phase := phase } (by simp) rfl
    obtain ⟨action, hs⟩ := h.forgotten other ho (by
      rw [htasks]
      intro third hthird he
      rcases List.mem_append.1 hthird with hb | ha
      · exact hnone third (List.mem_append_left _ hb) he
      · rcases List.mem_cons.1 ha with rfl | ha
        · exact hne he.symm
        · exact hnone third (List.mem_append_right _ (List.mem_cons_of_mem _ ha)) he)
    refine ⟨action, ?_⟩
    show Story config action .finished (eventsOf (panel.log ++ _) other)
    rw [hsame _ hne]
    exact hs
  case pending =>
    have hold := h.pending
    rw [htasks] at hold
    rw [hnew]
    show board.activity.pending = _
    simp only [List.countP_append, List.countP_cons] at hold ⊢
    omega
  case inFlight =>
    have hold := h.inFlight
    rw [htasks] at hold
    rw [hnew]
    show board.activity.inFlight = _
    simp only [List.countP_append, List.countP_cons] at hold ⊢
    omega
  case last => exact hlast
  case shown => exact hshown

/-! ## The moves -/

theorem pending_pos (h : Coherent config panel) {task : Task} (hmem : task ∈ panel.tasks)
    (hwait : task.phase.isWaiting = true) : 0 < panel.board.activity.pending :=
  h.pending ▸ List.countP_pos_iff.2 ⟨task, hmem, hwait⟩

theorem inFlight_pos (h : Coherent config panel) {task : Task} (hmem : task ∈ panel.tasks)
    (hway : task.phase.isUnderWay = true) : 0 < panel.board.activity.inFlight :=
  h.inFlight ▸ List.countP_pos_iff.2 ⟨task, hmem, hway⟩

theorem collect (h : Coherent config panel) (chosen : Nat → Bool) :
    Coherent config (panel.collect chosen) := by
  have hkeep : ∀ p : TaskPhase → Bool, (∀ phase, p phase = true → phase.isFinished = false) →
      (panel.collect chosen).tasks.countP (fun task => p task.phase) =
        panel.tasks.countP fun task => p task.phase := by
    intro p hp
    simp only [ActionPanel.collect, List.countP_filter]
    refine List.countP_congr fun task _ => ?_
    cases hphase : p task.phase
    · simp
    · simp [hp _ hphase]
  constructor
  case known => exact h.known
  case distinct => exact h.distinct.sublist (List.filter_sublist.map _)
  case present => exact fun task hmem => h.present task (List.mem_filter.1 hmem).1
  case forgotten =>
    intro id hid hnone
    by_cases hthere : ∃ task ∈ panel.tasks, task.id = id
    · obtain ⟨task, hmem, rfl⟩ := hthere
      -- the task was there, so it was chosen, and only finished ones are
      have hgone : task.phase.isFinished = true := by
        cases hphase : task.phase.isFinished
        · exact absurd rfl (hnone task (List.mem_filter.2 ⟨hmem, by simp [hphase]⟩))
        · rfl
      exact ⟨task.action, TaskPhase.eq_finished hgone ▸ (h.present task hmem).2⟩
    · exact h.forgotten id hid fun task hmem he => hthere ⟨task, hmem, he⟩
  case pending =>
    rw [hkeep TaskPhase.isWaiting fun _ => TaskPhase.isFinished_of_isWaiting]
    exact h.pending
  case inFlight =>
    rw [hkeep TaskPhase.isUnderWay fun _ hp => (TaskPhase.isUnderWay_iff.1 hp).2]
    exact h.inFlight
  case last => exact h.last
  case shown => exact h.shown

theorem schedule (h : Coherent config panel) (instant due : Nat) (action : PersonAction) :
    Coherent config (panel.schedule instant due action) := by
  have hreap : Coherent config panel.reap := h.collect fun _ => true
  have hfresh : ∀ entry ∈ panel.log, entry.task ≠ panel.triggers :=
    fun entry he => Nat.ne_of_lt (h.known entry he)
  have hlog : (panel.schedule instant due action).log = panel.log ++
      [TaskEvent.scheduled action].map fun event => ⟨panel.triggers, instant, event⟩ := rfl
  have hold : ∀ id < panel.triggers,
      eventsOf (panel.schedule instant due action).log id = eventsOf panel.log id := by
    intro id hid
    rw [hlog, eventsOf_append, eventsOf_note_other (Nat.ne_of_lt hid), List.append_nil]
  have hnew : eventsOf (panel.schedule instant due action).log panel.triggers =
      [.scheduled action] := by
    rw [hlog, eventsOf_append, eventsOf_note_self, eventsOf_eq_nil hfresh, List.nil_append]
  constructor
  case known =>
    intro entry he
    rcases List.mem_append.1 he with he | he
    · exact Nat.lt_succ_of_lt (h.known entry he)
    · rw [List.mem_singleton.1 he]
      exact Nat.lt_succ_self _
  case distinct =>
    show ((panel.reap.tasks ++ [(⟨panel.triggers, action, .waiting due⟩ : Task)]).map Task.id).Nodup
    rw [List.map_append, List.nodup_append]
    refine ⟨hreap.distinct, by simp, ?_⟩
    intro id hid other ho
    obtain ⟨task, hmem, rfl⟩ := List.mem_map.1 hid
    rw [List.map_singleton, List.mem_singleton] at ho
    exact ho ▸ Nat.ne_of_lt (hreap.present task hmem).1
  case present =>
    intro task hmem
    rcases List.mem_append.1 hmem with hmem | hmem
    · obtain ⟨hid, hs⟩ := hreap.present task hmem
      exact ⟨Nat.lt_succ_of_lt hid, (hold task.id hid).symm ▸ hs⟩
    · rw [List.mem_singleton.1 hmem]
      exact ⟨Nat.lt_succ_self _, hnew.symm ▸ Story.waiting due⟩
  case forgotten =>
    intro id hid hnone
    rcases Nat.lt_succ_iff_lt_or_eq.1 hid with hlt | rfl
    · rw [hold id hlt]
      exact hreap.forgotten id hlt fun task hmem => hnone task (List.mem_append_left _ hmem)
    · exact absurd rfl (hnone ⟨panel.triggers, action, .waiting due⟩
        (List.mem_append_right _ (List.mem_singleton_self _)))
  case pending =>
    show panel.board.activity.pending + 1 = (panel.reap.tasks ++ [_]).countP _
    rw [List.countP_append, ← hreap.pending]
    rfl
  case inFlight =>
    show panel.board.activity.inFlight = (panel.reap.tasks ++ [_]).countP _
    rw [List.countP_append, ← hreap.inFlight]
    rfl
  case last =>
    rw [hlog, lastResult?_append_of_nil rfl]
    exact h.last
  case shown => exact StatusBoard.current_update _ _

theorem begin (h : Coherent config panel) (instant id : Nat) :
    Coherent config (panel.begin instant id) := by
  unfold ActionPanel.begin
  split
  · exact h
  · rename_i task ht
    obtain ⟨hmem, rfl, hphase⟩ := of_task? ht
    obtain ⟨due, hwaiting⟩ := TaskPhase.eq_waiting hphase
    have hstory := (h.present task hmem).2
    have hpos := h.pending_pos hmem hphase
    rw [hwaiting] at hstory
    refine h.advance ht ?_ instant ?_ ?_ ?_ (StatusBoard.current_update _ _)
    · generalize eventsOf panel.log task.id = events at hstory ⊢
      cases hstory
      exact .asking
    · rw [hwaiting]
      show panel.board.activity.pending - 1 + 1 = panel.board.activity.pending + 0
      omega
    · rw [hwaiting]
      rfl
    · exact h.last.trans (lastResult?_append_of_nil rfl _ _ _).symm

/-- A task under way comes to its end. -/
theorem finish (h : Coherent config panel) {id : Nat} {mayLeave : TaskPhase → Bool} {task : Task}
    (ht : panel.task? id mayLeave = some task) (hway : task.phase.isUnderWay = true)
    {events : List TaskEvent} {status : PanelStatus} (instant : Nat)
    (hstory : Story config task.action .finished (eventsOf panel.log id ++ events))
    (hresult : events.filterMap TaskEvent.result? = [status]) :
    Coherent config ((panel.note id instant events).finish id status) := by
  obtain ⟨hmem, rfl, -⟩ := of_task? ht
  have hpos := h.inFlight_pos hmem hway
  obtain ⟨hwaiting, hunfinished⟩ := TaskPhase.isUnderWay_iff.1 hway
  -- the task is found whichever phases are allowed, as its number is its own
  have ht' : panel.task? task.id (fun phase => !phase.isFinished) = some task := by
    obtain ⟨other, ho⟩ := exists_task? hmem (p := fun phase => !phase.isFinished)
      (by simp [hunfinished])
    obtain ⟨homem, hoid, -⟩ := of_task? ho
    rw [ho, List.inj_on_of_nodup_map h.distinct homem hmem hoid]
  refine h.advance ht' hstory instant ?_ ?_ ?_ (StatusBoard.current_update _ _)
  · show panel.board.activity.pending + _ = _
    rw [hwaiting]
    rfl
  · show panel.board.activity.inFlight - 1 + _ = _
    rw [hway]
    show panel.board.activity.inFlight - 1 + 1 = panel.board.activity.inFlight + 0
    omega
  · exact (lastResult?_append_of_singleton hresult _ _ _).symm

theorem proceed (h : Coherent config panel) (receive : SentRequest → Reception) (instant id : Nat)
    (answer : Except TokenError BearerToken) :
    Coherent config (panel.proceed config receive instant id answer) := by
  unfold ActionPanel.proceed
  split
  · exact h
  · rename_i task ht
    obtain ⟨hmem, rfl, hphase⟩ := of_task? ht
    have hasking := TaskPhase.eq_asking hphase
    have hstory := (h.present task hmem).2
    rw [hasking] at hstory
    cases answer with
    | error cause =>
      refine h.finish ht (by rw [hasking]; rfl) instant ?_ rfl
      generalize eventsOf panel.log task.id = events at hstory ⊢
      cases hstory
      exact .abandoned cause
    | ok token =>
      refine h.advance ht ?_ instant ?_ ?_ ?_ h.shown
      · generalize eventsOf panel.log task.id = events at hstory ⊢
        cases hstory
        exact .inFlight _ _ token
      · rw [hasking]; rfl
      · rw [hasking]; rfl
      · exact h.last.trans (lastResult?_append_of_nil rfl _ _ _).symm

theorem resolve (h : Coherent config panel) (instant id : Nat)
    (result : Except TransportError Http.Status) :
    Coherent config (panel.resolve instant id result) := by
  unfold ActionPanel.resolve
  split
  · exact h
  · rename_i task ht
    obtain ⟨hmem, rfl, hphase⟩ := of_task? ht
    obtain ⟨deadline, reception, hflight⟩ := TaskPhase.eq_inFlight hphase
    have hstory := (h.present task hmem).2
    rw [hflight] at hstory
    refine h.finish ht (by rw [hflight]; rfl) instant ?_ rfl
    generalize eventsOf panel.log task.id = events at hstory ⊢
    cases hstory
    exact .ended _ _ result

end Coherent
end ActionPanel
end PersonGate
