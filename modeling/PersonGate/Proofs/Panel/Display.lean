import PersonGate.Proofs.Panel.Stages
/-!
# What the panel shows is what its tasks do

The panel keeps two counts and the last result, and shows a status made of them. The log says which
tasks still wait (`waiting`), which are between the start of sending and their end (`underWay`), and
which result came last; `Shows` says from that which status is due. However many tasks overlap, these
are the tasks and the results that the moves alone make, the counts are the numbers of those tasks,
every change of a count is by exactly one, and the status shown is the one that is due
(`status_exact`).
-/
namespace PersonGate

namespace TaskEvent

def isScheduled : TaskEvent → Bool
  | .scheduled _ => true
  | _ => false

def isSending : TaskEvent → Bool
  | .sending => true
  | _ => false

def isFinished : TaskEvent → Bool
  | .finished _ => true
  | _ => false

end TaskEvent

namespace ActionPanel

/-! ## The tasks by their part of the log -/

/-- Did the task start to send? -/
def hasBegun (panel : ActionPanel) (id : Nat) : Bool :=
  (eventsOf panel.log id).any TaskEvent.isSending

/-- Did the task come to its end? -/
def hasEnded (panel : ActionPanel) (id : Nat) : Bool :=
  (eventsOf panel.log id).any TaskEvent.isFinished

/-- The triggers whose tasks still wait. -/
def waiting (panel : ActionPanel) : List Nat :=
  (List.range panel.triggers).filter fun id => !panel.hasBegun id

/-- The triggers whose tasks have started to send and not come to their end. -/
def underWay (panel : ActionPanel) : List Nat :=
  (List.range panel.triggers).filter fun id => panel.hasBegun id && !panel.hasEnded id

/-- Is this the status that the panel has to show? A result is due only when nothing is left to do,
and then it is the one announced last. -/
def Shows (panel : ActionPanel) : PanelStatus → Prop
  | .idle => panel.triggers = 0
  | .pending => panel.underWay = [] ∧ panel.waiting ≠ []
  | .inFlight => panel.underWay ≠ []
  | .succeeded =>
    panel.underWay = [] ∧ panel.waiting = [] ∧ lastResult? panel.log = some .succeeded
  | .failed => panel.underWay = [] ∧ panel.waiting = [] ∧ lastResult? panel.log = some .failed

/-- How often this kind of event is among the entries. -/
def count (kind : TaskEvent → Bool) (entries : List LogEntry) : Nat :=
  entries.countP fun entry => kind entry.event

/-- The later panel has these entries in addition, and its two counts differ by what they tell: a
task that is scheduled, one that starts to send and one that ends each count once. -/
structure Counted (panel next : ActionPanel) (news : List LogEntry) : Prop where
  log : next.log = panel.log ++ news
  pending : next.board.activity.pending + count TaskEvent.isSending news =
    panel.board.activity.pending + count TaskEvent.isScheduled news
  inFlight : next.board.activity.inFlight + count TaskEvent.isFinished news =
    panel.board.activity.inFlight + count TaskEvent.isSending news

/-! ## Stories and the two phases that are counted -/

theorem Story.begun {config : ClientConfig} {action : PersonAction} {phase : TaskPhase}
    {events : List TaskEvent} (h : Story config action phase events) :
    events.any TaskEvent.isSending = !phase.isWaiting := by
  cases h <;> rfl

theorem Story.isFinished {config : ClientConfig} {action : PersonAction} {phase : TaskPhase}
    {events : List TaskEvent} (h : Story config action phase events) :
    events.any TaskEvent.isFinished = phase.isFinished := by
  cases h <;> rfl

theorem Story.result {config : ClientConfig} {action : PersonAction} {phase : TaskPhase}
    {events : List TaskEvent} (h : Story config action phase events) {status : PanelStatus}
    (hs : .finished status ∈ events) : status = .succeeded ∨ status = .failed := by
  cases h with
  | waiting | asking | inFlight => simp at hs
  | abandoned cause => exact .inr (by simpa using hs)
  | ended token arrived result =>
    have hstatus : status = .ofOutcome (.ofResult result) := by simpa using hs
    rw [hstatus]
    cases Outcome.ofResult result
    · exact .inl rfl
    · exact .inr rfl

theorem mem_eventsOf {log : List LogEntry} {entry : LogEntry} (h : entry ∈ log) :
    entry.event ∈ eventsOf log entry.task :=
  List.mem_map_of_mem (List.mem_filter.2 ⟨h, by simp⟩)

theorem exists_of_mem_eventsOf {log : List LogEntry} {id : Nat} {event : TaskEvent}
    (h : event ∈ eventsOf log id) : ∃ entry ∈ log, entry.event = event := by
  obtain ⟨entry, hmem, he⟩ := List.mem_map.1 h
  exact ⟨entry, (List.mem_filter.1 hmem).1, he⟩

/-- With nothing left to do and some trigger made, some result was announced. -/
theorem exists_lastResult {panel : ActionPanel} (htriggers : 0 < panel.triggers)
    (hwaiting : panel.waiting = []) (hway : panel.underWay = []) :
    ∃ status, lastResult? panel.log = some status := by
  have hbegun : panel.hasBegun 0 = true := by
    have := List.filter_eq_nil_iff.1 hwaiting 0 (List.mem_range.2 htriggers)
    simpa using this
  have hended : panel.hasEnded 0 = true := by
    have := List.filter_eq_nil_iff.1 hway 0 (List.mem_range.2 htriggers)
    simpa [hbegun] using this
  obtain ⟨event, hmem, hfin⟩ := List.any_eq_true.1 hended
  obtain ⟨entry, hentry, he⟩ := exists_of_mem_eventsOf hmem
  have hne : readings TaskEvent.result? panel.log ≠ [] := by
    cases event with
    | finished status =>
      refine List.ne_nil_of_mem (a := status) (List.mem_filterMap.2 ⟨entry, hentry, ?_⟩)
      rw [he, TaskEvent.result?]
    | _ => simp [TaskEvent.isFinished] at hfin
  exact ⟨_, List.getLast?_eq_some_getLast hne⟩

namespace Coherent
variable {config : ClientConfig} {panel : ActionPanel}

/-- The tasks in a phase are the triggers that the log says are in it. -/
theorem ids_perm (h : Coherent config panel) {p : TaskPhase → Bool}
    (hp : p .finished = false) {q : Nat → Bool}
    (hq : ∀ (id : Nat) (action : PersonAction) (phase : TaskPhase),
      Story config action phase (eventsOf panel.log id) → q id = p phase) :
    ((panel.tasks.filter fun task => p task.phase).map Task.id).Perm
      ((List.range panel.triggers).filter q) := by
  refine (List.perm_ext_iff_of_nodup (h.distinct.sublist (List.filter_sublist.map _))
    (List.nodup_range.filter _)).2 fun id => ?_
  simp only [List.mem_map, List.mem_filter, List.mem_range]
  constructor
  · rintro ⟨task, ⟨hmem, hphase⟩, rfl⟩
    obtain ⟨hid, hs⟩ := h.present task hmem
    exact ⟨hid, (hq _ _ _ hs).trans hphase⟩
  · rintro ⟨hid, hqid⟩
    obtain ⟨action, phase, hs, hthere⟩ := h.story hid
    have hphase : p phase = true := (hq _ _ _ hs).symm.trans hqid
    rcases hthere with rfl | hmem
    · rw [hp] at hphase
      cases hphase
    · exact ⟨_, ⟨hmem, hphase⟩, rfl⟩

theorem pending_eq (h : Coherent config panel) :
    panel.board.activity.pending = panel.waiting.length := by
  rw [h.pending, List.countP_eq_length_filter, ← List.length_map]
  refine (h.ids_perm rfl fun id action phase hs => ?_).length_eq
  rw [hasBegun, hs.begun, Bool.not_not]

theorem inFlight_eq (h : Coherent config panel) :
    panel.board.activity.inFlight = panel.underWay.length := by
  rw [h.inFlight, List.countP_eq_length_filter, ← List.length_map]
  refine (h.ids_perm rfl fun id action phase hs => ?_).length_eq
  rw [hasBegun, hasEnded, hs.begun, hs.isFinished, Bool.eq_iff_iff,
    TaskPhase.isUnderWay_iff]
  simp

/-- The waiting tasks are those of the triggers that wait. -/
theorem waiting_eq (h : Coherent config panel) :
    panel.waiting = idsAt Stage.isWaiting panel.stages := by
  refine h.filter_eq_idsAt fun id action phase hs => ?_
  rw [hasBegun, hs.begun]
  cases phase <;> rfl

theorem underWay_eq (h : Coherent config panel) :
    panel.underWay = idsAt Stage.isUnderWay panel.stages := by
  refine h.filter_eq_idsAt fun id action phase hs => ?_
  rw [hasBegun, hasEnded, hs.begun, hs.isFinished]
  cases phase <;> rfl

/-! ## Every change is by one -/

theorem counted_refl (panel : ActionPanel) : Counted panel panel [] :=
  ⟨(List.append_nil _).symm, rfl, rfl⟩

theorem counted_begin (h : Coherent config panel) (instant id : Nat) :
    ∃ news, Counted panel (panel.begin instant id) news := by
  unfold ActionPanel.begin
  split
  · exact ⟨[], counted_refl panel⟩
  · rename_i task ht
    obtain ⟨hmem, -, hphase⟩ := of_task? ht
    have hpos := h.pending_pos hmem hphase
    refine ⟨[⟨id, instant, .sending⟩], rfl, ?_, rfl⟩
    show panel.board.activity.pending - 1 + 1 = panel.board.activity.pending + 0
    omega

theorem counted_proceed (h : Coherent config panel) (receive : SentRequest → Reception)
    (instant id : Nat) (answer : Except TokenError BearerToken) :
    ∃ news, Counted panel (panel.proceed config receive instant id answer) news := by
  unfold ActionPanel.proceed
  split
  · exact ⟨[], counted_refl panel⟩
  · rename_i task ht
    obtain ⟨hmem, -, hphase⟩ := of_task? ht
    have hpos := h.inFlight_pos hmem (by rw [TaskPhase.eq_asking hphase]; rfl)
    cases answer with
    | error cause =>
      refine ⟨[⟨id, instant, .tokenCall (.error cause)⟩, ⟨id, instant, .finished .failed⟩], rfl,
        rfl, ?_⟩
      show panel.board.activity.inFlight - 1 + 1 = panel.board.activity.inFlight + 0
      omega
    | ok token => exact ⟨[⟨id, instant, .tokenCall (.ok token)⟩, ⟨id, instant, .attempt _ _⟩], rfl,
        rfl, rfl⟩

theorem counted_resolve (h : Coherent config panel) (instant id : Nat)
    (result : Except TransportError Http.Status) :
    ∃ news, Counted panel (panel.resolve instant id result) news := by
  unfold ActionPanel.resolve
  split
  · exact ⟨[], counted_refl panel⟩
  · rename_i task ht
    obtain ⟨hmem, -, hphase⟩ := of_task? ht
    obtain ⟨deadline, reception, hflight⟩ := TaskPhase.eq_inFlight hphase
    have hpos := h.inFlight_pos hmem (by rw [hflight]; rfl)
    refine ⟨[⟨id, instant, .ended result⟩, ⟨id, instant, .finished _⟩, ⟨id, instant, .notified _⟩],
      rfl, rfl, ?_⟩
    show panel.board.activity.inFlight - 1 + 1 = panel.board.activity.inFlight + 0
    omega

/-- No move takes from a count that is zero: what it does to the counts is what its entries tell. -/
theorem counted_move (h : Coherent config panel) (m : Move) :
    ∃ news, Counted panel (panel.move config m) news := by
  cases m with
  | schedule instant due action =>
    exact ⟨[⟨panel.triggers, instant, .scheduled action⟩], rfl, rfl, rfl⟩
  | begin instant id => exact h.counted_begin instant id
  | proceed receive instant id answer => exact h.counted_proceed receive instant id answer
  | resolve instant id result => exact h.counted_resolve instant id result
  | collect chosen => exact ⟨[], (List.append_nil _).symm, rfl, rfl⟩

/-! ## The status that is due -/

/-- Only results are announced. -/
theorem result_of_last (h : Coherent config panel) {status : PanelStatus}
    (hs : lastResult? panel.log = some status) : status = .succeeded ∨ status = .failed := by
  obtain ⟨entry, hmem, hr⟩ := List.mem_filterMap.1 (List.mem_of_getLast? hs)
  obtain ⟨action, phase, hstory, -⟩ := h.story (h.known entry hmem)
  have hevent : entry.event = .finished status := by
    cases he : entry.event <;> simp_all [TaskEvent.result?]
  exact hstory.result (hevent ▸ mem_eventsOf hmem)

/-- A panel without triggers has nothing on its log. -/
theorem log_eq_nil (h : Coherent config panel) (htriggers : panel.triggers = 0) :
    panel.log = [] := by
  refine List.eq_nil_iff_forall_not_mem.2 fun entry he => ?_
  have := h.known entry he
  omega

/-- The status shown is the one that is due. -/
theorem status_iff (h : Coherent config panel) (status : PanelStatus) :
    panel.status = status ↔ panel.Shows status := by
  have hshown : panel.status =
      if 0 < panel.underWay.length then .inFlight
      else if 0 < panel.waiting.length then .pending
      else (lastResult? panel.log).getD .idle := by
    rw [h.shown, Activity.status, h.pending_eq, h.inFlight_eq, h.last]
  have htriggers : ∀ p : Nat → Bool, (List.range panel.triggers).filter p ≠ [] →
      panel.triggers ≠ 0 := by
    intro p hne hzero
    simp [hzero] at hne
  by_cases hway : panel.underWay = []
  · by_cases hwait : panel.waiting = []
    · rw [hshown]
      rcases Nat.eq_zero_or_pos panel.triggers with hzero | hpos
      · have hlast : lastResult? panel.log = none := by rw [h.log_eq_nil hzero]; rfl
        cases status <;> simp [Shows, hway, hwait, hlast, hzero]
      · obtain ⟨result, hlast⟩ := exists_lastResult hpos hwait hway
        have hne : panel.triggers ≠ 0 := Nat.ne_of_gt hpos
        rcases h.result_of_last hlast with rfl | rfl <;>
          cases status <;> simp [Shows, hway, hwait, hlast, hne]
    · have hne := htriggers _ hwait
      rw [hshown]
      cases status <;> simp [Shows, hway, hwait, hne, List.length_pos_iff]
  · have hne := htriggers _ hway
    rw [hshown]
    cases status <;> simp [Shows, hway, hne, List.length_pos_iff]

end Coherent

/-- Results are announced by the changes that bring them. -/
theorem readings_result (log : List LogEntry) : readings TaskEvent.result? log =
    (readings TaskEvent.change? log).filterMap Change.result? := by
  rw [readings, readings, List.filterMap_filterMap]
  refine List.filterMap_congr fun entry _ => ?_
  cases entry.event <;> rfl

/-! ## What is rendered -/

/-- The rendered tree tells the status. -/
theorem tree_injective {a b : PanelStatus} (h : tree a = tree b) : a = b := by
  have hlines : buttons ++ [statusLine a] = buttons ++ [statusLine b] := by
    simpa only [tree, Node.element.injEq, true_and] using h
  have hline : statusLine a = statusLine b := by simpa using hlines
  have hlabel : a.label.toList = b.label.toList := by simpa [statusLine] using hline
  revert hlabel
  cases a <;> cases b <;> decide

/-- **The status is exact under overlap.** Whatever moves were made: what was triggered, which
triggers wait, which are under way and which results were announced is what the moves alone say; the
count of waiting tasks and the count of tasks under way are the numbers of those tasks; the next move
takes from no count that is zero; and the status, in the panel and in what it renders, is the one
that is due. -/
theorem status_exact (config : ClientConfig) (moves : List Move) :
    let panel := play config {} moves
    let stages := stagesAfter [] moves
    panel.triggers = (moves.filterMap Move.action?).length ∧
    readings TaskEvent.action? panel.log = moves.filterMap Move.action? ∧
    panel.waiting = idsAt Stage.isWaiting stages ∧
    panel.underWay = idsAt Stage.isUnderWay stages ∧
    readings TaskEvent.result? panel.log = (changesOf [] moves).filterMap Change.result? ∧
    panel.board.activity.pending = panel.waiting.length ∧
    panel.board.activity.inFlight = panel.underWay.length ∧
    (∀ m, ∃ news, Counted panel (panel.move config m) news) ∧
    ∀ status, (panel.status = status ↔ panel.Shows status) ∧
      (panel.view = tree status ↔ panel.Shows status) := by
  intro panel stages
  have h : Coherent config panel := coherent_play config moves
  obtain ⟨hstages, hchanges⟩ : panel.stages = stages ∧
      readings TaskEvent.change? panel.log = changesOf [] moves := obeys_play config moves
  obtain ⟨hscheduled, htriggers⟩ := scheduled_play config moves {}
  refine ⟨htriggers.trans (Nat.zero_add _), hscheduled, hstages ▸ h.waiting_eq,
    hstages ▸ h.underWay_eq, hchanges ▸ readings_result panel.log, h.pending_eq, h.inFlight_eq,
    h.counted_move, fun status => ⟨h.status_iff status, ?_⟩⟩
  rw [← h.status_iff status]
  exact ⟨fun he => tree_injective he, fun he => by rw [view, he]⟩

end ActionPanel
end PersonGate
