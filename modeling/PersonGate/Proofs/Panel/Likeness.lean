import Mathlib.Data.List.Forall2
import PersonGate.Proofs.Panel.Run
/-!
# Panels that differ in what nobody is shown

Some facts about a task go into its events and its phase and no further: why there is no token,
which status of a kind came back, whether it was a status at all. A `Leeway` says which other facts
may differ as well, and two panels are alike within it if they agree on all else (`PanelsAlike`): on
the board, on the phases of all tasks, and, entry by entry, on the log. Moves that are alike keep
panels alike (`PanelsAlike.move`), so runs of such moves do (`PanelsAlike.play`).
-/
namespace PersonGate
open ActionPanel

/-- The end of a request that answers it with a status from 200 to 299. -/
def IsFulfilled : Except TransportError Http.Status → Prop
  | .ok status => 200 ≤ status ∧ status ≤ 299
  | .error _ => False

/-- Two ends of a request that are the same to the user: both fulfil it, or neither does. -/
def SameVerdict (a b : Except TransportError Http.Status) : Prop := IsFulfilled a ↔ IsFulfilled b

theorem Outcome.ofResult_eq_succeeded_iff_isFulfilled
    {result : Except TransportError Http.Status} :
    ofResult result = .succeeded ↔ IsFulfilled result := by
  rw [ofResult_eq_succeeded_iff]
  simp only [Http.isSuccess_iff]
  cases result <;> simp [IsFulfilled]

theorem SameVerdict.ofResult_eq {a b : Except TransportError Http.Status} (h : SameVerdict a b) :
    Outcome.ofResult a = Outcome.ofResult b := by
  have hiff := h
  rw [SameVerdict, ← Outcome.ofResult_eq_succeeded_iff_isFulfilled,
    ← Outcome.ofResult_eq_succeeded_iff_isFulfilled] at hiff
  cases ha : Outcome.ofResult a <;> cases hb : Outcome.ofResult b <;> simp [ha, hb] at hiff ⊢

/-- What may differ between two panels and around them: which token the source gives, what becomes
of a request on its way, and the variables of the environment. -/
structure Leeway where
  token : BearerToken → BearerToken → Prop
  reception : Reception → Reception → Prop
  environment : Environment → Environment → Prop

namespace Leeway
variable (l : Leeway)

/-- Both answers have a token, or neither has one. -/
inductive AnswersAlike : Except TokenError BearerToken → Except TokenError BearerToken → Prop
  | token {a b : BearerToken} (h : l.token a b) : AnswersAlike (.ok a) (.ok b)
  | none (a b : TokenError) : AnswersAlike (.error a) (.error b)

/-- A request with one of two tokens. -/
inductive RequestsAlike : SentRequest → SentRequest → Prop
  | mk (request : SentRequest) {a b : BearerToken} (h : l.token a b) :
    RequestsAlike { request with authorization := a.authorization }
      { request with authorization := b.authorization }

inductive PhasesAlike : TaskPhase → TaskPhase → Prop
  | waiting (due : Nat) : PhasesAlike (.waiting due) (.waiting due)
  | asking : PhasesAlike .asking .asking
  | inFlight (deadline : Option Nat) {a b : Reception} (h : l.reception a b) :
    PhasesAlike (.inFlight deadline a) (.inFlight deadline b)
  | finished : PhasesAlike .finished .finished

inductive TasksAlike : Task → Task → Prop
  | mk (id : Nat) (action : PersonAction) {p q : TaskPhase} (h : l.PhasesAlike p q) :
    TasksAlike ⟨id, action, p⟩ ⟨id, action, q⟩

inductive EventsAlike : TaskEvent → TaskEvent → Prop
  | scheduled (action : PersonAction) : EventsAlike (.scheduled action) (.scheduled action)
  | sending : EventsAlike .sending .sending
  | tokenCall {a b : Except TokenError BearerToken} (h : l.AnswersAlike a b) :
    EventsAlike (.tokenCall a) (.tokenCall b)
  | attempt {request other : SentRequest} (h : l.RequestsAlike request other) {a b : Reception}
    (hreception : l.reception a b) :
    EventsAlike (.attempt request a.arrives) (.attempt other b.arrives)
  | ended {a b : Except TransportError Http.Status} (h : SameVerdict a b) :
    EventsAlike (.ended a) (.ended b)
  | finished (status : PanelStatus) : EventsAlike (.finished status) (.finished status)
  | notified (outcome : Outcome) : EventsAlike (.notified outcome) (.notified outcome)

inductive EntriesAlike : LogEntry → LogEntry → Prop
  | mk (task instant : Nat) {e f : TaskEvent} (h : l.EventsAlike e f) :
    EntriesAlike ⟨task, instant, e⟩ ⟨task, instant, f⟩

/-- Two panels that differ within the leeway. -/
structure PanelsAlike (panel other : ActionPanel) : Prop where
  board : panel.board = other.board
  triggers : panel.triggers = other.triggers
  tasks : List.Forall₂ l.TasksAlike panel.tasks other.tasks
  log : List.Forall₂ l.EntriesAlike panel.log other.log

/-- The same move, at the same instant and on the same task, in a world that differs within the
leeway. -/
inductive MovesAlike : Move → Move → Prop
  | schedule (instant due : Nat) (action : PersonAction) :
    MovesAlike (.schedule instant due action) (.schedule instant due action)
  | begin (instant id : Nat) : MovesAlike (.begin instant id) (.begin instant id)
  | proceed (instant id : Nat) {receive receive' : SentRequest → Reception}
    (hreceive : ∀ request other, l.RequestsAlike request other →
      l.reception (receive request) (receive' other))
    {a b : Except TokenError BearerToken} (h : l.AnswersAlike a b) :
    MovesAlike (.proceed receive instant id a) (.proceed receive' instant id b)
  | resolve (instant id : Nat) {a b : Except TransportError Http.Status} (h : SameVerdict a b) :
    MovesAlike (.resolve instant id a) (.resolve instant id b)
  | collect (chosen : Nat → Bool) : MovesAlike (.collect chosen) (.collect chosen)

variable {l}

/-! ## Phases and tasks -/

/-- What does not look at the reception of a request is the same of phases that are alike. -/
theorem PhasesAlike.congr {p q : TaskPhase} (h : l.PhasesAlike p q) {α : Type} {f : TaskPhase → α}
    (hf : ∀ deadline a b, f (.inFlight deadline a) = f (.inFlight deadline b)) : f p = f q := by
  cases h with
  | inFlight deadline h => exact hf deadline _ _
  | _ => rfl

theorem PhasesAlike.isFinished {p q : TaskPhase} (h : l.PhasesAlike p q) :
    p.isFinished = q.isFinished := h.congr fun _ _ _ => rfl

/-- A filter by phase that treats phases alike leaves tasks alike. -/
theorem TasksAlike.filter {tasks others : List Task} (h : List.Forall₂ l.TasksAlike tasks others)
    {keep : Task → Bool} (hkeep : ∀ task other, l.TasksAlike task other → keep task = keep other) :
    List.Forall₂ l.TasksAlike (tasks.filter keep) (others.filter keep) :=
  List.rel_filter (fun task other ht => Bool.eq_iff_iff.1 (hkeep task other ht)) h

theorem TasksAlike.find? {tasks others : List Task} (h : List.Forall₂ l.TasksAlike tasks others)
    {p : Task → Bool} (hp : ∀ task other, l.TasksAlike task other → p task = p other) :
    Option.Rel l.TasksAlike (tasks.find? p) (others.find? p) := by
  induction h with
  | nil => exact .none
  | @cons task other _ _ ht _ ih =>
    cases hx : p task with
    | true =>
      rw [List.find?_cons_of_pos hx, List.find?_cons_of_pos (hp task other ht ▸ hx)]
      exact .some ht
    | false =>
      rw [List.find?_cons_of_neg (by simp [hx]),
        List.find?_cons_of_neg (by simp [← hp task other ht, hx])]
      exact ih

/-- Reading alike entries for what is never different gives the same. -/
theorem EntriesAlike.read {log others : List LogEntry}
    (h : List.Forall₂ l.EntriesAlike log others) {α : Type} {R : α → α → Prop}
    {read : TaskEvent → Option α}
    (hread : ∀ e f, l.EventsAlike e f → Option.Rel R (read e) (read f)) :
    List.Forall₂ R (readings read log) (readings read others) := by
  refine List.rel_filterMap (fun entry other he => ?_) h
  obtain ⟨task, instant, he⟩ := he
  exact hread _ _ he

theorem RequestsAlike.eq {request other : SentRequest} (h : l.RequestsAlike request other)
    (htoken : ∀ a b, l.token a b → a = b) : request = other := by
  obtain ⟨request, h⟩ := h
  rw [htoken _ _ h]

/-! ## What is shown and told -/

theorem EntriesAlike.outcomes {log others : List LogEntry}
    (h : List.Forall₂ l.EntriesAlike log others) :
    ActionPanel.outcomes log = ActionPanel.outcomes others := by
  have houtcomes : List.Forall₂ Eq (readings TaskEvent.notice? log)
      (readings TaskEvent.notice? others) := by
    refine EntriesAlike.read h fun e f he => ?_
    cases he with
    | notified outcome => exact .some rfl
    | _ => exact .none
  rwa [List.forall₂_eq_eq_eq] at houtcomes

namespace PanelsAlike
variable {panel other : ActionPanel}

theorem status (h : l.PanelsAlike panel other) : panel.status = other.status := by
  rw [ActionPanel.status, h.board, ActionPanel.status]

theorem view (h : l.PanelsAlike panel other) : panel.view = other.view := by
  rw [ActionPanel.view, h.status, ActionPanel.view]

theorem outstanding (h : l.PanelsAlike panel other) : panel.outstanding = other.outstanding :=
  h.tasks.length_eq

/-! ## Parts of moves -/

theorem start : l.PanelsAlike {} {} := ⟨rfl, rfl, .nil, .nil⟩

theorem task? (h : l.PanelsAlike panel other) (id : Nat) {inPhase : TaskPhase → Bool}
    (hphase : ∀ p q, l.PhasesAlike p q → inPhase p = inPhase q) :
    Option.Rel l.TasksAlike (panel.task? id inPhase) (other.task? id inPhase) := by
  refine TasksAlike.find? h.tasks fun task other ht => ?_
  obtain ⟨id', action, hpq⟩ := ht
  simp only [hphase _ _ hpq]

theorem setPhase (h : l.PanelsAlike panel other) (id : Nat) {mayLeave : TaskPhase → Bool}
    (hleave : ∀ p q, l.PhasesAlike p q → mayLeave p = mayLeave q) {phase phase' : TaskPhase}
    (hphase : l.PhasesAlike phase phase') :
    l.PanelsAlike (panel.setPhase id mayLeave phase) (other.setPhase id mayLeave phase') where
  board := h.board
  triggers := h.triggers
  tasks := by
    refine List.rel_map (fun task other ht => ?_) h.tasks
    obtain ⟨id', action, hpq⟩ := ht
    simp only [hleave _ _ hpq]
    split
    · exact .mk id' action hphase
    · exact .mk id' action hpq
  log := h.log

theorem note (h : l.PanelsAlike panel other) (id instant : Nat) {events events' : List TaskEvent}
    (hevents : List.Forall₂ l.EventsAlike events events') :
    l.PanelsAlike (panel.note id instant events) (other.note id instant events') where
  board := h.board
  triggers := h.triggers
  tasks := h.tasks
  log := List.rel_append h.log (List.rel_map (fun _ _ he => .mk id instant he) hevents)

theorem withBoard (h : l.PanelsAlike panel other) (board : StatusBoard) :
    l.PanelsAlike { panel with board := board } { other with board := board } :=
  ⟨rfl, h.triggers, h.tasks, h.log⟩

theorem finish (h : l.PanelsAlike panel other) (id : Nat) (status : PanelStatus) :
    l.PanelsAlike (panel.finish id status) (other.finish id status) := by
  rw [ActionPanel.finish, h.board, ActionPanel.finish]
  exact (h.withBoard _).setPhase id (fun p q hpq => by rw [hpq.isFinished]) .finished

/-! ## Moves -/

theorem collect (h : l.PanelsAlike panel other) (chosen : Nat → Bool) :
    l.PanelsAlike (panel.collect chosen) (other.collect chosen) where
  board := h.board
  triggers := h.triggers
  tasks := by
    refine TasksAlike.filter h.tasks fun task other ht => ?_
    obtain ⟨id, action, hpq⟩ := ht
    simp only [hpq.isFinished]
  log := h.log

theorem schedule (h : l.PanelsAlike panel other) (instant due : Nat) (action : PersonAction) :
    l.PanelsAlike (panel.schedule instant due action) (other.schedule instant due action) where
  board := congrArg StatusBoard.scheduled h.board
  triggers := congrArg (· + 1) h.triggers
  tasks := by
    have hreap := (h.collect fun _ => true).tasks
    refine List.rel_append hreap (.cons ?_ .nil)
    rw [h.triggers]
    exact .mk _ action (.waiting due)
  log := by
    refine List.rel_append h.log (.cons ?_ .nil)
    rw [h.triggers]
    exact .mk _ instant (.scheduled action)

theorem begin (h : l.PanelsAlike panel other) (instant id : Nat) :
    l.PanelsAlike (panel.begin instant id) (other.begin instant id) := by
  have hwaiting : ∀ p q, l.PhasesAlike p q → p.isWaiting = q.isWaiting :=
    fun p q hpq => hpq.congr fun _ _ _ => rfl
  have htask := h.task? id hwaiting
  unfold ActionPanel.begin
  generalize panel.task? id TaskPhase.isWaiting = found at htask
  generalize other.task? id TaskPhase.isWaiting = found' at htask
  cases htask with
  | none => exact h
  | some _ =>
    rw [h.board]
    exact ((h.withBoard _).note id instant (.cons .sending .nil)).setPhase id hwaiting .asking

theorem proceed (h : l.PanelsAlike panel other) (config : ClientConfig)
    {receive receive' : SentRequest → Reception}
    (hreceive : ∀ request other, l.RequestsAlike request other →
      l.reception (receive request) (receive' other))
    (instant id : Nat) {a b : Except TokenError BearerToken} (hanswer : l.AnswersAlike a b) :
    l.PanelsAlike (panel.proceed config receive instant id a)
      (other.proceed config receive' instant id b) := by
  have hasking : ∀ p q, l.PhasesAlike p q → p.isAsking = q.isAsking :=
    fun p q hpq => hpq.congr fun _ _ _ => rfl
  have htask := h.task? id hasking
  unfold ActionPanel.proceed
  generalize panel.task? id TaskPhase.isAsking = found at htask
  generalize other.task? id TaskPhase.isAsking = found' at htask
  cases htask with
  | none => exact h
  | some htask =>
    obtain ⟨id', action, -⟩ := htask
    cases hanswer with
    | none cause cause' =>
      exact (h.note id instant (.cons (.tokenCall (.none cause cause'))
        (.cons (.finished .failed) .nil))).finish id .failed
    | @token s t htoken =>
      have hrequest := RequestsAlike.mk (config.request s action) htoken
      have hreception := hreceive _ _ hrequest
      exact (h.note id instant (.cons (.tokenCall (.token htoken))
        (.cons (.attempt hrequest hreception) .nil))).setPhase id hasking (.inFlight _ hreception)

theorem resolve (h : l.PanelsAlike panel other) (instant id : Nat)
    {a b : Except TransportError Http.Status} (hresult : SameVerdict a b) :
    l.PanelsAlike (panel.resolve instant id a) (other.resolve instant id b) := by
  have hflight : ∀ p q, l.PhasesAlike p q → p.isInFlight = q.isInFlight :=
    fun p q hpq => hpq.congr fun _ _ _ => rfl
  have htask := h.task? id hflight
  unfold ActionPanel.resolve
  generalize panel.task? id TaskPhase.isInFlight = found at htask
  generalize other.task? id TaskPhase.isInFlight = found' at htask
  cases htask with
  | none => exact h
  | some _ =>
    simp only [hresult.ofResult_eq]
    exact (h.note id instant (.cons (.ended hresult) (.cons (.finished _)
      (.cons (.notified _) .nil)))).finish id _

theorem move (h : l.PanelsAlike panel other) (config : ClientConfig) {m n : Move}
    (hmove : l.MovesAlike m n) : l.PanelsAlike (panel.move config m) (other.move config n) := by
  cases hmove with
  | schedule instant due action => exact h.schedule instant due action
  | begin instant id => exact h.begin instant id
  | proceed instant id hreceive hanswer => exact h.proceed config hreceive instant id hanswer
  | resolve instant id hresult => exact h.resolve instant id hresult
  | collect chosen => exact h.collect chosen

/-- Runs whose moves are alike lead to panels that are alike. -/
theorem play (h : l.PanelsAlike panel other) (config : ClientConfig) {moves others : List Move}
    (hmoves : List.Forall₂ l.MovesAlike moves others) :
    l.PanelsAlike (panel.play config moves) (other.play config others) :=
  List.rel_foldl (fun _ _ hpanel _ _ hmove => hpanel.move config hmove) h hmoves

end PanelsAlike
end Leeway
end PersonGate
