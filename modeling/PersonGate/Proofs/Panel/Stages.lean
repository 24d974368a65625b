import PersonGate.Proofs.Panel.Ledger
/-!
# What moves alone make of the triggers

How far each trigger has come can be said without a panel. A trigger waits from the move that makes
it, and later moves take it on stage by stage: a move does so if the trigger it names is at the stage
that the move is for, and nothing otherwise. On its way a trigger changes three times what there is
to show: when it is made, at the start of sending, and at its end (`Move.effect`).

The panel does just that. Its log tells the stage of each trigger (`stages`), and with every move the
stages and the changes on the log go on as the move alone says (`Coherent.obeys_move`); so they do in
a whole run (`obeys_play`).
-/
namespace PersonGate

/-- How far a trigger has come. -/
inductive Stage where
  | waiting
  /-- Sending has started, and the token source has been asked. -/
  | asking
  /-- The request is on its way. -/
  | sent
  | over
  deriving DecidableEq, Repr

namespace Stage

def isWaiting : Stage → Bool
  | .waiting => true
  | .asking | .sent | .over => false

/-- Between the start of sending and the end. -/
def isUnderWay : Stage → Bool
  | .asking | .sent => true
  | .waiting | .over => false

end Stage

/-- What changes the activity of a panel. -/
inductive Change where
  | trigger
  | start
  | finish (result : PanelStatus)
  deriving DecidableEq, Repr

/-- The result that a change brings. -/
def Change.result? : Change → Option PanelStatus
  | .finish result => some result
  | .trigger | .start => none

namespace TaskEvent

/-- The change of the activity that comes with an event. -/
def change? : TaskEvent → Option Change
  | .scheduled _ => some .trigger
  | .sending => some .start
  | .finished status => some (.finish status)
  | .tokenCall _ | .attempt _ _ | .ended _ | .notified _ => none

/-- The stage that a task gets to with an event. -/
def stage? : TaskEvent → Option Stage
  | .scheduled _ => some .waiting
  | .sending => some .asking
  | .attempt _ _ => some .sent
  | .finished _ => some .over
  | .tokenCall _ | .ended _ | .notified _ => none

end TaskEvent

namespace TaskPhase

/-- The stage of a task in a phase. -/
def stage : TaskPhase → Stage
  | .waiting _ => .waiting
  | .asking => .asking
  | .inFlight _ _ => .sent
  | .finished => .over

theorem isWaiting_iff_stage (phase : TaskPhase) :
    phase.isWaiting = true ↔ phase.stage = .waiting := by
  cases phase <;> simp [isWaiting, stage]

theorem isAsking_iff_stage (phase : TaskPhase) :
    phase.isAsking = true ↔ phase.stage = .asking := by
  cases phase <;> simp [isAsking, stage]

theorem isInFlight_iff_stage (phase : TaskPhase) :
    phase.isInFlight = true ↔ phase.stage = .sent := by
  cases phase <;> simp [isInFlight, stage]

end TaskPhase

namespace ActionPanel

/-! ## Moves without a panel -/

/-- A trigger that is at one stage goes to another, and there is this change. -/
def turn (stages : List Stage) (id : Nat) (source target : Stage) (change : Option Change) :
    List Stage × Option Change :=
  if stages[id]? = some source then (stages.set id target, change) else (stages, none)

/-- What a move does with triggers at these stages: their stages after it, and what it changes. -/
def Move.effect (stages : List Stage) : Move → List Stage × Option Change
  | .schedule _ _ _ => (stages ++ [.waiting], some .trigger)
  | .begin _ id => turn stages id .waiting .asking (some .start)
  | .proceed _ _ id (.error _) => turn stages id .asking .over (some (.finish .failed))
  | .proceed _ _ id (.ok _) => turn stages id .asking .sent none
  | .resolve _ id result =>
    turn stages id .sent .over (some (.finish (.ofOutcome (.ofResult result))))
  | .collect _ => (stages, none)

/-- The stages after some moves in a row. -/
def stagesAfter (stages : List Stage) (moves : List Move) : List Stage :=
  moves.foldl (fun stages m => (m.effect stages).1) stages

/-- What moves in a row change. -/
def changesOf (stages : List Stage) : List Move → List Change
  | [] => []
  | m :: rest => (m.effect stages).2.toList ++ changesOf (m.effect stages).1 rest

/-- The triggers at a stage of some kind. -/
def idsAt (kind : Stage → Bool) (stages : List Stage) : List Nat :=
  (List.range stages.length).filter fun id => stages[id]?.any kind

/-! ## The stages on the log -/

/-- The stage of a task with these events behind it. -/
def stageOf (events : List TaskEvent) : Stage :=
  ((events.filterMap TaskEvent.stage?).getLast?).getD .waiting

/-- The stages of all triggers, as the log tells them. -/
def stages (panel : ActionPanel) : List Stage :=
  (List.range panel.triggers).map fun id => stageOf (eventsOf panel.log id)

/-- The later panel is at these stages, and its log tells this change in addition. -/
structure Obeys (panel next : ActionPanel) (effect : List Stage × Option Change) : Prop where
  stages : next.stages = effect.1
  log : ∃ news, next.log = panel.log ++ news ∧
    readings TaskEvent.change? news = effect.2.toList

theorem Story.stage {config : ClientConfig} {action : PersonAction} {phase : TaskPhase}
    {events : List TaskEvent} (h : Story config action phase events) :
    stageOf events = phase.stage := by
  cases h <;> rfl

theorem stageOf_append {events : List TaskEvent} {stage : Stage}
    (h : (events.filterMap TaskEvent.stage?).getLast? = some stage) (past : List TaskEvent) :
    stageOf (past ++ events) = stage := by
  rw [stageOf, List.filterMap_append, List.getLast?_append, h, Option.some_or, Option.getD_some]

theorem length_stages (panel : ActionPanel) : panel.stages.length = panel.triggers := by
  rw [stages, List.length_map, List.length_range]

theorem getElem?_stages {panel : ActionPanel} {id : Nat} (hid : id < panel.triggers) :
    panel.stages[id]? = some (stageOf (eventsOf panel.log id)) := by
  rw [stages, List.getElem?_map, List.getElem?_range hid, Option.map_some]

theorem lt_of_getElem?_stages {panel : ActionPanel} {id : Nat} {stage : Stage}
    (h : panel.stages[id]? = some stage) : id < panel.triggers := by
  obtain ⟨hid, -⟩ := List.getElem?_eq_some_iff.1 h
  exact length_stages panel ▸ hid

/-- Events of one task take it to the stage of the last of them that has one. -/
theorem stages_note {panel next : ActionPanel} (htriggers : next.triggers = panel.triggers)
    {id instant : Nat} {events : List TaskEvent}
    (hlog : next.log = panel.log ++ events.map fun event => ⟨id, instant, event⟩) {stage : Stage}
    (hstage : (events.filterMap TaskEvent.stage?).getLast? = some stage) :
    next.stages = panel.stages.set id stage := by
  refine List.ext_getElem (by simp [length_stages, htriggers]) fun other hother _ => ?_
  rw [length_stages, htriggers] at hother
  rw [List.getElem_set]
  simp only [stages, List.getElem_map, List.getElem_range, hlog, eventsOf_append]
  by_cases he : id = other
  · subst he
    rw [if_pos rfl, eventsOf_note_self, stageOf_append hstage]
  · rw [if_neg he, eventsOf_note_other (Ne.symm he), List.append_nil]

namespace Coherent
variable {config : ClientConfig} {panel next : ActionPanel} {id : Nat} {inPhase : TaskPhase → Bool}
  {source target : Stage} {change : Option Change}

/-- The triggers at a stage of some kind are those whose stories say so. -/
theorem filter_eq_idsAt (h : Coherent config panel) {p : Nat → Bool} {kind : Stage → Bool}
    (hp : ∀ (id : Nat) (action : PersonAction) (phase : TaskPhase),
      Story config action phase (eventsOf panel.log id) → p id = kind phase.stage) :
    (List.range panel.triggers).filter p = idsAt kind panel.stages := by
  rw [idsAt, length_stages]
  refine List.filter_congr fun id hid => ?_
  obtain ⟨action, phase, hs, -⟩ := h.story (List.mem_range.1 hid)
  rw [getElem?_stages (List.mem_range.1 hid), Option.any_some, hs.stage, hp id action phase hs]

/-! ## One move -/

/-- There is a task for a trigger as long as that is not over, in a phase of its stage. -/
theorem isSome_task?_iff (h : Coherent config panel)
    (hphase : ∀ phase, inPhase phase = true ↔ phase.stage = source) (hsource : source ≠ .over) :
    (panel.task? id inPhase).isSome ↔ panel.stages[id]? = some source := by
  constructor
  · intro hsome
    obtain ⟨task, ht⟩ := Option.isSome_iff_exists.1 hsome
    obtain ⟨hmem, rfl, hin⟩ := of_task? ht
    obtain ⟨hid, hstory⟩ := h.present task hmem
    rw [getElem?_stages hid, hstory.stage, (hphase _).1 hin]
  · intro hstage
    have hid := lt_of_getElem?_stages hstage
    obtain ⟨action, phase, hstory, hthere⟩ := h.story hid
    rw [getElem?_stages hid, hstory.stage, Option.some.injEq] at hstage
    rcases hthere with rfl | hmem
    · exact absurd hstage.symm hsource
    · exact Option.isSome_iff_exists.2 (exists_task? hmem ((hphase phase).2 hstage))

/-- A move of a task does nothing when its trigger is at another stage. -/
theorem obeys_of_none (h : Coherent config panel)
    (hphase : ∀ phase, inPhase phase = true ↔ phase.stage = source) (hsource : source ≠ .over)
    (hnone : panel.task? id inPhase = none) :
    Obeys panel panel (turn panel.stages id source target change) := by
  have hstage : panel.stages[id]? ≠ some source := by
    rw [ne_eq, ← isSome_task?_iff h hphase hsource, hnone]
    exact Bool.false_ne_true
  rw [turn, if_neg hstage]
  exact ⟨rfl, [], (List.append_nil _).symm, rfl⟩

/-- A move of a task takes its trigger on when that is at the right stage. -/
theorem obeys_of_some (h : Coherent config panel)
    (hphase : ∀ phase, inPhase phase = true ↔ phase.stage = source) (hsource : source ≠ .over)
    {task : Task} (ht : panel.task? id inPhase = some task) (events : List TaskEvent)
    (htriggers : next.triggers = panel.triggers) {instant : Nat}
    (hlog : next.log = panel.log ++ events.map fun event => ⟨id, instant, event⟩)
    (htarget : (events.filterMap TaskEvent.stage?).getLast? = some target)
    (hchange : events.filterMap TaskEvent.change? = change.toList) :
    Obeys panel next (turn panel.stages id source target change) := by
  have hstage : panel.stages[id]? = some source :=
    (isSome_task?_iff h hphase hsource).1 (Option.isSome_iff_exists.2 ⟨task, ht⟩)
  rw [turn, if_pos hstage]
  exact ⟨stages_note htriggers hlog htarget, _, hlog, (readings_note _ _ _ _).trans hchange⟩

theorem obeys_schedule (h : Coherent config panel) (instant due : Nat) (action : PersonAction) :
    Obeys panel (panel.schedule instant due action)
      (panel.stages ++ [.waiting], some .trigger) := by
  have hlog : (panel.schedule instant due action).log = panel.log ++
      [TaskEvent.scheduled action].map fun event => ⟨panel.triggers, instant, event⟩ := rfl
  refine ⟨?_, _, hlog, rfl⟩
  have hnew : eventsOf (panel.schedule instant due action).log panel.triggers =
      [.scheduled action] := by
    rw [hlog, eventsOf_append, eventsOf_note_self,
      eventsOf_eq_nil fun entry he => Nat.ne_of_lt (h.known entry he), List.nil_append]
  have hold : ∀ id ∈ List.range panel.triggers,
      stageOf (eventsOf (panel.schedule instant due action).log id) =
        stageOf (eventsOf panel.log id) := by
    intro id hid
    rw [hlog, eventsOf_append, eventsOf_note_other (Nat.ne_of_lt (List.mem_range.1 hid)),
      List.append_nil]
  show (List.range (panel.triggers + 1)).map _ = _
  rw [List.range_succ, List.map_append, List.map_singleton, hnew, List.map_congr_left hold]
  rfl

/-- The panel and its log do what the move alone says. -/
theorem obeys_move (h : Coherent config panel) (m : Move) :
    Obeys panel (panel.move config m) (m.effect panel.stages) := by
  cases m with
  | schedule instant due action => exact h.obeys_schedule instant due action
  | collect chosen => exact ⟨rfl, [], (List.append_nil _).symm, rfl⟩
  | begin instant id =>
    simp only [ActionPanel.move, ActionPanel.begin, Move.effect]
    split
    · rename_i hnone
      exact h.obeys_of_none TaskPhase.isWaiting_iff_stage (by decide) hnone
    · rename_i task ht
      exact h.obeys_of_some TaskPhase.isWaiting_iff_stage (by decide) ht [.sending] rfl rfl rfl rfl
  | proceed receive instant id answer =>
    cases answer with
    | error cause =>
      simp only [ActionPanel.move, ActionPanel.proceed, Move.effect]
      split
      · rename_i hnone
        exact h.obeys_of_none TaskPhase.isAsking_iff_stage (by decide) hnone
      · rename_i task ht
        exact h.obeys_of_some TaskPhase.isAsking_iff_stage (by decide) ht
          [.tokenCall (.error cause), .finished .failed] rfl rfl rfl rfl
    | ok token =>
      simp only [ActionPanel.move, ActionPanel.proceed, Move.effect]
      split
      · rename_i hnone
        exact h.obeys_of_none TaskPhase.isAsking_iff_stage (by decide) hnone
      · rename_i task ht
        exact h.obeys_of_some TaskPhase.isAsking_iff_stage (by decide) ht
          [.tokenCall (.ok token), .attempt _ _] rfl rfl rfl rfl
  | resolve instant id result =>
    simp only [ActionPanel.move, ActionPanel.resolve, Move.effect]
    split
    · rename_i hnone
      exact h.obeys_of_none TaskPhase.isInFlight_iff_stage (by decide) hnone
    · rename_i task ht
      exact h.obeys_of_some TaskPhase.isInFlight_iff_stage (by decide) ht
        [.ended result, .finished _, .notified _] rfl rfl rfl rfl

/-! ## Whole runs -/

theorem obeys_play (h : Coherent config panel) (moves : List Move) :
    (panel.play config moves).stages = stagesAfter panel.stages moves ∧
      readings TaskEvent.change? (panel.play config moves).log =
        readings TaskEvent.change? panel.log ++ changesOf panel.stages moves := by
  induction moves generalizing panel with
  | nil => exact ⟨rfl, (List.append_nil _).symm⟩
  | cons m rest ih =>
    obtain ⟨hstages, news, hlog, hchange⟩ := h.obeys_move m
    obtain ⟨hafter, hchanges⟩ := ih (h.move m)
    rw [hstages] at hafter hchanges
    refine ⟨hafter, hchanges.trans ?_⟩
    rw [hlog, readings_append, hchange, List.append_assoc]
    rfl

end Coherent

/-- In a run from the start, the stages and the changes on the log are those of its moves. -/
theorem obeys_play (config : ClientConfig) (moves : List Move) :
    (play config {} moves).stages = stagesAfter [] moves ∧
      readings TaskEvent.change? (play config {} moves).log = changesOf [] moves :=
  (Coherent.start config).obeys_play moves

end ActionPanel
end PersonGate
