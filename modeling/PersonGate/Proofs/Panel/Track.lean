import PersonGate.Proofs.Panel.Story
/-!
# One trigger among many

The `track` of a trigger is all that a panel holds of it: the tasks that have something before them,
and what the log tells of it with the instants. The number of the trigger is left out, so tracks of
different panels can be compared. A move on another trigger does not touch a track, and what a move
on the trigger itself makes of its track depends on the track alone, not on the rest of the panel.
-/
namespace PersonGate
namespace ActionPanel

/-- What happened to one trigger, and when, in order. -/
abbrev History := List (Nat × TaskEvent)

def historyOf (log : List LogEntry) (id : Nat) : History :=
  (entriesOf log id).map fun entry => (entry.instant, entry.event)

theorem historyOf_append (log more : List LogEntry) (id : Nat) :
    historyOf (log ++ more) id = historyOf log id ++ historyOf more id := by
  simp [historyOf, entriesOf]

theorem historyOf_note_self (id instant : Nat) (events : List TaskEvent) :
    historyOf (events.map fun event => ⟨id, instant, event⟩) id =
      events.map fun event => (instant, event) := by
  rw [historyOf, entriesOf_note_self, List.map_map]
  rfl

theorem historyOf_note_other {id other : Nat} (h : other ≠ id) (instant : Nat)
    (events : List TaskEvent) :
    historyOf (events.map fun event => ⟨id, instant, event⟩) other = [] := by
  rw [historyOf, entriesOf_note_other h, List.map_nil]

/-- The action and the phase of a task, if it is a task of this trigger and not yet over. -/
def open? (id : Nat) (task : Task) : Option (PersonAction × TaskPhase) :=
  if task.id = id ∧ task.phase.isFinished = false then some (task.action, task.phase) else none

theorem open?_eq_some {id : Nat} {task : Task} {action : PersonAction} {phase : TaskPhase}
    (h : open? id task = some (action, phase)) :
    task.id = id ∧ task.action = action ∧ task.phase = phase := by
  unfold open? at h
  split at h
  · rename_i hopen
    cases h
    exact ⟨hopen.1, rfl, rfl⟩
  · cases h

theorem open?_eq_none {id : Nat} {task : Task} (h : open? id task = none) :
    id ≠ task.id ∨ task.phase = .finished := by
  by_cases hid : task.id = id
  · refine .inr (TaskPhase.eq_finished ?_)
    simpa [open?, hid] using h
  · exact .inl (Ne.symm hid)

/-- What a panel holds of one trigger. -/
@[ext] structure Track where
  /-- The actions and phases of its tasks that are not over. -/
  tasks : List (PersonAction × TaskPhase) := []
  history : History := []

theorem Track.eq_mk {track : Track} {tasks : List (PersonAction × TaskPhase)}
    (h : track.tasks = tasks) : track = ⟨tasks, track.history⟩ := congrArg (Track.mk · _) h

def track (panel : ActionPanel) (id : Nat) : Track where
  tasks := panel.tasks.filterMap (open? id)
  history := historyOf panel.log id

/-! ## Moves on another trigger -/

section
variable {id other : Nat} (h : other ≠ id) (panel : ActionPanel)
include h

/-- A task goes on to another phase, and no other trigger sees it. -/
theorem track_setPhase_other (board : StatusBoard) (instant : Nat) (events : List TaskEvent)
    (mayLeave : TaskPhase → Bool) (phase : TaskPhase) :
    (({ panel with board := board }.note id instant events).setPhase id mayLeave
      phase).track other = panel.track other := by
  ext1
  · show (panel.tasks.map _).filterMap (open? other) = panel.tasks.filterMap (open? other)
    rw [List.filterMap_map]
    refine List.filterMap_congr fun task _ => ?_
    rw [Function.comp_apply]
    split
    · rename_i hself
      simp [open?, hself.1, Ne.symm h]
    · rfl
  · show historyOf (panel.log ++ _) other = historyOf panel.log other
    rw [historyOf_append, historyOf_note_other h, List.append_nil]

theorem track_begin_other (instant : Nat) :
    (panel.begin instant id).track other = panel.track other := by
  unfold ActionPanel.begin
  split
  · rfl
  · exact track_setPhase_other h panel _ _ _ _ _

theorem track_proceed_other (config : ClientConfig) (receive : SentRequest → Reception)
    (instant : Nat) (answer : Except TokenError BearerToken) :
    (panel.proceed config receive instant id answer).track other = panel.track other := by
  unfold ActionPanel.proceed
  split
  · rfl
  · split
    · exact track_setPhase_other h panel _ _ _ _ _
    · exact track_setPhase_other h panel panel.board _ _ _ _

theorem track_resolve_other (instant : Nat) (result : Except TransportError Http.Status) :
    (panel.resolve instant id result).track other = panel.track other := by
  unfold ActionPanel.resolve
  split
  · rfl
  · exact track_setPhase_other h panel _ _ _ _ _

theorem track_dispatch_other (config : ClientConfig) (receive : SentRequest → Reception)
    (instant : Nat) (answer : Except TokenError BearerToken) :
    (panel.dispatch config receive instant id answer).track other = panel.track other := by
  rw [ActionPanel.dispatch, ActionPanel.bounce]
  split
  · rw [track_proceed_other h, track_begin_other h]
  · rw [track_resolve_other h, track_proceed_other h, track_begin_other h]

end

/-! ## Moves on the trigger itself -/

theorem isFinished_of_inPhase {inPhase : TaskPhase → Bool} (hopen : inPhase .finished = false)
    {phase : TaskPhase} (h : inPhase phase = true) : phase.isFinished = false := by
  cases hphase : phase.isFinished
  · rfl
  · rw [TaskPhase.eq_finished hphase, hopen] at h
    cases h

/-- Looking for a task of the trigger in some phases is looking at its track, unless the phases are
those of tasks that are over. -/
theorem task?_track (panel : ActionPanel) (id : Nat) {inPhase : TaskPhase → Bool}
    (hopen : inPhase .finished = false) :
    (panel.task? id inPhase).map (fun task => (task.action, task.phase)) =
      (panel.track id).tasks.find? fun x => inPhase x.2 := by
  have hsame : ∀ task : Task, decide (task.id = id ∧ inPhase task.phase) =
      (open? id task).any fun x => inPhase x.2 := by
    intro task
    by_cases hid : task.id = id
    · cases hin : inPhase task.phase
      · cases hphase : task.phase.isFinished <;> simp [open?, hid, hin, hphase]
      · simp [open?, hid, hin, isFinished_of_inPhase hopen hin]
    · simp [open?, hid]
  show (panel.tasks.find? _).map _ = (panel.tasks.filterMap (open? id)).find? _
  rw [List.find?_filterMap, funext hsame]
  cases hfind : panel.tasks.find? fun task => (open? id task).any fun x => inPhase x.2 with
  | none => rfl
  | some task =>
    have hany := List.find?_some hfind
    cases hx : open? id task with
    | none => simp [hx] at hany
    | some x =>
      obtain ⟨-, haction, hphase⟩ := open?_eq_some hx
      simp [hx, haction, hphase]

/-- What becomes of a task that is not over when its trigger goes from some phases to another. -/
def goOn (mayLeave : TaskPhase → Bool) (phase : TaskPhase) (x : PersonAction × TaskPhase) :
    Option (PersonAction × TaskPhase) :=
  if mayLeave x.2 then (if phase.isFinished then none else some (x.1, phase)) else some x

theorem track_setPhase_self (panel : ActionPanel) (board : StatusBoard) (id instant : Nat)
    (events : List TaskEvent) {mayLeave : TaskPhase → Bool} (hopen : mayLeave .finished = false)
    (phase : TaskPhase) :
    (({ panel with board := board }.note id instant events).setPhase id mayLeave phase).track id =
      ⟨(panel.track id).tasks.filterMap (goOn mayLeave phase),
        (panel.track id).history ++ events.map fun event => (instant, event)⟩ := by
  ext1
  · show (panel.tasks.map _).filterMap (open? id) =
      (panel.tasks.filterMap (open? id)).filterMap (goOn mayLeave phase)
    rw [List.filterMap_map, List.filterMap_filterMap]
    refine List.filterMap_congr fun task _ => ?_
    by_cases hid : task.id = id
    · cases hmay : mayLeave task.phase
      · cases hphase : task.phase.isFinished <;> simp [open?, goOn, hid, hmay, hphase]
      · cases hphase : phase.isFinished <;>
          simp [open?, goOn, hid, hmay, hphase, isFinished_of_inPhase hopen hmay]
    · simp [open?, hid]
  · show historyOf (panel.log ++ _) id = historyOf panel.log id ++ _
    rw [historyOf_append, historyOf_note_self]

/-- The end of a request, as its trigger sees it. -/
def Track.resolve (track : Track) (instant : Nat) (result : Except TransportError Http.Status) :
    Track where
  history := track.history ++ [(instant, .ended result),
    (instant, .finished (.ofOutcome (.ofResult result))), (instant, .notified (.ofResult result))]

/-- What a trigger becomes when its wait is over and the token source gives this answer: it ends at
once without a token or without anyone to receive the request, and else is in flight. -/
def Track.dispatch (config : ClientConfig) (receive : SentRequest → Reception) (instant : Nat)
    (answer : Except TokenError BearerToken) (action : PersonAction) (history : History) : Track :=
  match answer with
  | .error cause =>
    ⟨[], history ++ [(instant, .sending), (instant, .tokenCall (.error cause)),
      (instant, .finished .failed)]⟩
  | .ok token =>
    let request := config.request token action
    let reception := receive request
    let sent : Track := ⟨[(action, .inFlight (deadline config instant) reception)],
      history ++ [(instant, .sending), (instant, .tokenCall (.ok token)),
        (instant, .attempt request reception.arrives)]⟩
    if reception = .refused then sent.resolve instant (.error .broken) else sent

section
variable {panel : ActionPanel} {id : Nat} {action : PersonAction} {history : History}

theorem exists_task?_of_track {phase : TaskPhase}
    (h : panel.track id = ⟨[(action, phase)], history⟩) (inPhase : TaskPhase → Bool)
    (hopen : inPhase .finished = false) (hin : inPhase phase = true) :
    ∃ task, panel.task? id inPhase = some task ∧ task.action = action := by
  have hfind := task?_track panel id hopen
  rw [h, List.find?_cons_of_pos (by exact hin)] at hfind
  obtain ⟨task, htask, hx⟩ := Option.map_eq_some_iff.1 hfind
  exact ⟨task, htask, congrArg Prod.fst hx⟩

theorem task?_eq_none_of_track {inPhase : TaskPhase → Bool} (hopen : inPhase .finished = false)
    (h : (panel.track id).tasks.find? (fun x => inPhase x.2) = none) :
    panel.task? id inPhase = none := by
  rwa [← Option.map_eq_none_iff, task?_track panel id hopen]

theorem track_begin {due : Nat} (h : panel.track id = ⟨[(action, .waiting due)], history⟩)
    (instant : Nat) :
    (panel.begin instant id).track id =
      ⟨[(action, .asking)], history ++ [(instant, .sending)]⟩ := by
  obtain ⟨task, htask, -⟩ := exists_task?_of_track h TaskPhase.isWaiting rfl rfl
  rw [ActionPanel.begin, htask]
  simp only
  rw [track_setPhase_self _ _ _ _ _ rfl, h]
  rfl

theorem track_proceed_error (h : panel.track id = ⟨[(action, .asking)], history⟩)
    (config : ClientConfig) (receive : SentRequest → Reception) (instant : Nat)
    (cause : TokenError) :
    (panel.proceed config receive instant id (.error cause)).track id =
      ⟨[], history ++ [(instant, .tokenCall (.error cause)), (instant, .finished .failed)]⟩ := by
  obtain ⟨task, htask, -⟩ := exists_task?_of_track h TaskPhase.isAsking rfl rfl
  rw [ActionPanel.proceed, htask]
  show ((({ panel with board := panel.board.finished .failed } : ActionPanel).note id instant
    _).setPhase id _ _).track id = _
  rw [track_setPhase_self _ _ _ _ _ rfl, h]
  rfl

theorem track_proceed_ok (h : panel.track id = ⟨[(action, .asking)], history⟩)
    (config : ClientConfig) (receive : SentRequest → Reception) (instant : Nat)
    (token : BearerToken) :
    let request := config.request token action
    (panel.proceed config receive instant id (.ok token)).track id =
      ⟨[(action, .inFlight (deadline config instant) (receive request))],
        history ++ [(instant, .tokenCall (.ok token)),
          (instant, .attempt request (receive request).arrives)]⟩ := by
  obtain ⟨task, htask, rfl⟩ := exists_task?_of_track h TaskPhase.isAsking rfl rfl
  rw [ActionPanel.proceed, htask]
  show ((({ panel with board := panel.board } : ActionPanel).note id instant _).setPhase id _
    _).track id = _
  rw [track_setPhase_self _ _ _ _ _ rfl, h]
  rfl

theorem track_resolve {limit : Option Nat} {reception : Reception}
    (h : panel.track id = ⟨[(action, .inFlight limit reception)], history⟩) (instant : Nat)
    (result : Except TransportError Http.Status) :
    (panel.resolve instant id result).track id = (panel.track id).resolve instant result := by
  obtain ⟨task, htask, -⟩ := exists_task?_of_track h TaskPhase.isInFlight rfl rfl
  rw [ActionPanel.resolve, htask]
  show ((({ panel with board := panel.board.finished _ } : ActionPanel).note id instant
    _).setPhase id _ _).track id = _
  rw [track_setPhase_self _ _ _ _ _ rfl, h]
  rfl

theorem track_bounce {limit : Option Nat} {reception : Reception}
    (h : panel.track id = ⟨[(action, .inFlight limit reception)], history⟩) (instant : Nat) :
    (panel.bounce instant id).track id =
      if reception = .refused then (panel.track id).resolve instant (.error .broken)
      else panel.track id := by
  rw [ActionPanel.bounce]
  cases reception with
  | refused =>
    obtain ⟨task, htask, -⟩ := exists_task?_of_track h TaskPhase.isRefused rfl rfl
    rw [htask]
    exact track_resolve h instant _
  | answered _ | held =>
    rw [task?_eq_none_of_track rfl (by rw [h]; rfl)]
    rfl

theorem track_dispatch {due : Nat} (h : panel.track id = ⟨[(action, .waiting due)], history⟩)
    (config : ClientConfig) (receive : SentRequest → Reception) (instant : Nat)
    (answer : Except TokenError BearerToken) :
    (panel.dispatch config receive instant id answer).track id =
      Track.dispatch config receive instant answer action history := by
  have hasking := track_begin h instant
  rw [ActionPanel.dispatch]
  cases answer with
  | error cause =>
    have hended := track_proceed_error hasking config receive instant cause
    rw [ActionPanel.bounce, task?_eq_none_of_track rfl (by rw [hended]; rfl)]
    simp only [hended, List.append_assoc]
    rfl
  | ok token =>
    have hsent := track_proceed_ok hasking config receive instant token
    rw [track_bounce hsent, hsent]
    simp only [List.append_assoc]
    rfl

end

/-! ## Moves on all tasks -/

theorem track_collect (panel : ActionPanel) (chosen : Nat → Bool) (id : Nat) :
    (panel.collect chosen).track id = panel.track id := by
  ext1
  · show (panel.tasks.filter _).filterMap (open? id) = panel.tasks.filterMap (open? id)
    rw [List.filterMap_filter]
    refine List.filterMap_congr fun task _ => ?_
    cases hphase : task.phase.isFinished <;> simp [open?, hphase]
  · rfl

theorem track_release (panel : ActionPanel) (id : Nat) :
    panel.release.track id = ⟨[], (panel.track id).history⟩ := rfl

theorem track_schedule_other {id : Nat} {panel : ActionPanel} (h : id ≠ panel.triggers)
    (instant due : Nat) (action : PersonAction) :
    (panel.schedule instant due action).track id = panel.track id := by
  rw [← track_collect panel fun _ => true]
  ext1
  · have hnew : open? id ⟨panel.triggers, action, .waiting due⟩ = none :=
      if_neg fun hself => h hself.1.symm
    show (panel.reap.tasks ++ [(⟨panel.triggers, action, .waiting due⟩ : Task)]).filterMap
      (open? id) = panel.reap.tasks.filterMap (open? id)
    rw [List.filterMap_append, List.filterMap_cons_none hnew, List.filterMap_nil, List.append_nil]
  · show historyOf (panel.log ++ [TaskEvent.scheduled action].map fun event =>
      ⟨panel.triggers, instant, event⟩) id = _
    rw [historyOf_append, historyOf_note_other h, List.append_nil]
    rfl

/-- A new trigger is the only task of its number, and nothing was told of it before. -/
theorem track_schedule_self {panel : ActionPanel} (h : panel.track panel.triggers = {})
    (instant due : Nat) (action : PersonAction) :
    (panel.schedule instant due action).track panel.triggers =
      ⟨[(action, .waiting due)], [(instant, .scheduled action)]⟩ := by
  rw [← track_collect panel fun _ => true] at h
  ext1
  · show (panel.reap.tasks ++ [(⟨panel.triggers, action, .waiting due⟩ : Task)]).filterMap
      (open? panel.triggers) = _
    have htasks : panel.reap.tasks.filterMap (open? panel.triggers) = [] := congrArg Track.tasks h
    rw [List.filterMap_append, htasks]
    simp [open?, TaskPhase.isFinished]
  · have hhistory : historyOf panel.log panel.triggers = [] := congrArg Track.history h
    show historyOf (panel.log ++ [TaskEvent.scheduled action].map fun event =>
      ⟨panel.triggers, instant, event⟩) panel.triggers = _
    rw [historyOf_append, historyOf_note_self, hhistory]
    rfl

end ActionPanel
end PersonGate
