import PersonGate.Panel.Task
/-!
# Moves use up the work ahead

A waiting task has three moves before it, one that asks for its token has two, one in flight has one,
and a finished task has none. No move adds to the sum of these numbers, and a move on a task in the
right phase takes from it (`movesLeft_begin`, `movesLeft_proceed`, `movesLeft_resolve`). So a panel
that is left alone comes to rest.
-/
namespace PersonGate

theorem TaskPhase.movesLeft_eq_zero_iff {phase : TaskPhase} :
    phase.movesLeft = 0 ↔ phase.isFinished = true := by
  cases phase <;> simp [movesLeft, isFinished]

namespace ActionPanel

/-- The sum of a measure over a list. -/
def total {α : Type} (measure : α → Nat) : List α → Nat
  | [] => 0
  | a :: rest => measure a + total measure rest

/-- How many moves the tasks have before them at most. -/
def movesLeft (panel : ActionPanel) : Nat := total (fun task => task.phase.movesLeft) panel.tasks

theorem total_map {α : Type} (measure : α → Nat) (f : α → α) (l : List α) :
    total measure (l.map f) = total (fun a => measure (f a)) l := by
  induction l with
  | nil => rfl
  | cons a r ih => simp only [List.map_cons, total, ih]

theorem total_le {α : Type} {l : List α} {f g : α → Nat} (h : ∀ x ∈ l, f x ≤ g x) :
    total f l ≤ total g l := by
  induction l with
  | nil => exact Nat.le_refl _
  | cons a r ih =>
    have ha := h a (by simp)
    have hr := ih fun x hx => h x (by simp [hx])
    simp only [total]
    omega

theorem total_lt {α : Type} {l : List α} {f g : α → Nat} (h : ∀ x ∈ l, f x ≤ g x) {a : α}
    (ha : a ∈ l) (hlt : f a < g a) : total f l < total g l := by
  induction l with
  | nil => simp at ha
  | cons b r ih =>
    have hb := h b (by simp)
    have hr := total_le fun x hx => h x (List.mem_cons_of_mem b hx)
    simp only [total]
    rcases List.mem_cons.1 ha with rfl | har
    · omega
    · have := ih (fun x hx => h x (List.mem_cons_of_mem b hx)) har
      omega

theorem total_eq_zero_iff {α : Type} {measure : α → Nat} {l : List α} :
    total measure l = 0 ↔ ∀ x ∈ l, measure x = 0 := by
  induction l with
  | nil => simp [total]
  | cons a r ih => simp only [total, Nat.add_eq_zero_iff, ih, List.forall_mem_cons]

theorem total_filter_le {α : Type} (measure : α → Nat) (p : α → Bool) (l : List α) :
    total measure (l.filter p) ≤ total measure l := by
  induction l with
  | nil => exact Nat.le_refl _
  | cons a r ih =>
    rw [List.filter_cons]
    split <;> simp only [total] <;> omega

/-- No work is left when every task has finished. -/
theorem movesLeft_eq_zero_iff {panel : ActionPanel} :
    panel.movesLeft = 0 ↔ ∀ task ∈ panel.tasks, task.phase.isFinished = true := by
  simp only [movesLeft, total_eq_zero_iff, TaskPhase.movesLeft_eq_zero_iff]

@[simp] theorem movesLeft_note (panel : ActionPanel) (task instant : Nat)
    (events : List TaskEvent) : (panel.note task instant events).movesLeft = panel.movesLeft := rfl

/-- Going to a phase with fewer moves ahead leaves no more work in all, and less if a task goes. -/
theorem movesLeft_setPhase (panel : ActionPanel) (id : Nat) {mayLeave : TaskPhase → Bool}
    {phase : TaskPhase} (h : ∀ p, mayLeave p = true → phase.movesLeft < p.movesLeft) :
    (panel.setPhase id mayLeave phase).movesLeft ≤ panel.movesLeft ∧
      ∀ task, panel.task? id mayLeave = some task →
        (panel.setPhase id mayLeave phase).movesLeft < panel.movesLeft := by
  have hle : ∀ task ∈ panel.tasks,
      (if task.id = id ∧ mayLeave task.phase then { task with phase := phase } else task
        : Task).phase.movesLeft ≤ task.phase.movesLeft := by
    intro task _
    split
    · rename_i hc; exact Nat.le_of_lt (h _ hc.2)
    · exact Nat.le_refl _
  constructor
  · simp only [movesLeft, setPhase, total_map]
    exact total_le hle
  · intro task ht
    simp only [movesLeft, setPhase, total_map]
    have hmem := List.mem_of_find?_eq_some ht
    have hsel := List.find?_some ht
    refine total_lt hle hmem ?_
    have hc : task.id = id ∧ mayLeave task.phase = true := by simpa using hsel
    simp only [hc, and_self, if_true]
    exact h _ hc.2

theorem movesLeft_finish (panel : ActionPanel) (id : Nat) (status : PanelStatus) :
    (panel.finish id status).movesLeft ≤ panel.movesLeft ∧
      ∀ task, panel.task? id (fun phase => !phase.isFinished) = some task →
        (panel.finish id status).movesLeft < panel.movesLeft := by
  have h : ∀ p : TaskPhase, (!p.isFinished) = true →
      TaskPhase.finished.movesLeft < p.movesLeft := by
    intro p hp; cases p <;> simp_all [TaskPhase.isFinished, TaskPhase.movesLeft]
  exact movesLeft_setPhase { panel with board := panel.board.finished status } id h

theorem isInFlight_unfinished (p : TaskPhase) (h : p.isInFlight = true) :
    (!p.isFinished) = true := by
  obtain ⟨deadline, reception, rfl⟩ := TaskPhase.eq_inFlight h
  rfl

theorem movesLeft_begin (panel : ActionPanel) (instant id : Nat) :
    (panel.begin instant id).movesLeft ≤ panel.movesLeft ∧
      ∀ task, panel.task? id TaskPhase.isWaiting = some task →
        (panel.begin instant id).movesLeft < panel.movesLeft := by
  have h : ∀ p : TaskPhase, p.isWaiting = true → TaskPhase.asking.movesLeft < p.movesLeft := by
    intro p hp
    obtain ⟨due, rfl⟩ := TaskPhase.eq_waiting hp
    exact Nat.lt_succ_self _
  unfold begin
  split
  · rename_i hn; exact ⟨Nat.le_refl _, fun task ht => by simp [hn] at ht⟩
  · rename_i task ht
    have := (movesLeft_setPhase ({ panel with board := panel.board.sending }.note id instant
      [.sending]) id h).2 task ht
    exact ⟨Nat.le_of_lt this, fun _ _ => this⟩

theorem isAsking_unfinished (p : TaskPhase) (h : p.isAsking = true) :
    (!p.isFinished) = true := by
  rw [TaskPhase.eq_asking h]
  rfl

theorem movesLeft_proceed (panel : ActionPanel) (config : ClientConfig)
    (receive : SentRequest → Reception) (instant id : Nat)
    (answer : Except TokenError BearerToken) :
    (panel.proceed config receive instant id answer).movesLeft ≤ panel.movesLeft ∧
      ∀ task, panel.task? id TaskPhase.isAsking = some task →
        (panel.proceed config receive instant id answer).movesLeft < panel.movesLeft := by
  have hsent : ∀ (deadline : Option Nat) (reception : Reception) (p : TaskPhase),
      p.isAsking = true → (TaskPhase.inFlight deadline reception).movesLeft < p.movesLeft := by
    intro _ _ p hp
    rw [TaskPhase.eq_asking hp]
    exact Nat.lt_succ_self _
  unfold proceed
  split
  · rename_i hn; exact ⟨Nat.le_refl _, fun task ht => by simp [hn] at ht⟩
  · rename_i task ht
    cases answer with
    | error cause =>
      obtain ⟨hmem, rfl, hphase⟩ := of_task? ht
      obtain ⟨other, hu⟩ := exists_task? hmem (p := fun phase => !phase.isFinished)
        (isAsking_unfinished _ hphase)
      have := (movesLeft_finish (panel.note task.id instant [.tokenCall (.error cause),
        .finished .failed]) task.id .failed).2 other hu
      exact ⟨Nat.le_of_lt this, fun _ _ => this⟩
    | ok token =>
      let request := config.request token task.action
      have := (movesLeft_setPhase (panel.note id instant [.tokenCall (.ok token),
        .attempt request (receive request).arrives]) id
        (hsent (deadline config instant) (receive request))).2 task ht
      exact ⟨Nat.le_of_lt this, fun _ _ => this⟩

theorem movesLeft_resolve (panel : ActionPanel) (instant id : Nat)
    (result : Except TransportError Http.Status) :
    (panel.resolve instant id result).movesLeft ≤ panel.movesLeft ∧
      ∀ task, panel.task? id TaskPhase.isInFlight = some task →
        (panel.resolve instant id result).movesLeft < panel.movesLeft := by
  unfold resolve
  split
  · rename_i hn; exact ⟨Nat.le_refl _, fun task ht => by simp [hn] at ht⟩
  · rename_i task ht
    obtain ⟨hmem, rfl, hphase⟩ := of_task? ht
    obtain ⟨other, hu⟩ := exists_task? hmem (p := fun phase => !phase.isFinished)
      (isInFlight_unfinished _ hphase)
    have := (movesLeft_finish (panel.note task.id instant [.ended result,
      .finished (.ofOutcome (.ofResult result)), .notified (.ofResult result)]) task.id
      (.ofOutcome (.ofResult result))).2 other hu
    exact ⟨Nat.le_of_lt this, fun _ _ => this⟩

theorem movesLeft_bounce_le (panel : ActionPanel) (instant id : Nat) :
    (panel.bounce instant id).movesLeft ≤ panel.movesLeft := by
  unfold bounce
  split
  · exact Nat.le_refl _
  · exact (movesLeft_resolve _ _ _ _).1

theorem movesLeft_dispatch (panel : ActionPanel) (config : ClientConfig)
    (receive : SentRequest → Reception) (instant id : Nat)
    (answer : Except TokenError BearerToken) :
    (panel.dispatch config receive instant id answer).movesLeft ≤ panel.movesLeft ∧
      ∀ task, panel.task? id TaskPhase.isWaiting = some task →
        (panel.dispatch config receive instant id answer).movesLeft < panel.movesLeft := by
  have hle : (panel.dispatch config receive instant id answer).movesLeft ≤
      (panel.begin instant id).movesLeft :=
    Nat.le_trans (movesLeft_bounce_le _ _ _) (movesLeft_proceed _ _ _ _ _ _).1
  exact ⟨Nat.le_trans hle (movesLeft_begin panel instant id).1,
    fun task ht => Nat.lt_of_le_of_lt hle ((movesLeft_begin panel instant id).2 task ht)⟩

end ActionPanel
end PersonGate
