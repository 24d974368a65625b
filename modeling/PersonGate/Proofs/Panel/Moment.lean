import PersonGate.Proofs.Panel.Spans
import PersonGate.Proofs.Panel.Track
/-!
# One trigger while time passes

The clock moves all tasks of a panel that are due at an instant, one after the other. A trigger sees
only its own task among them, so what becomes of its track at an instant is a function of the track,
the instant and the answer that the token source then gives (`Track.moment`). While time passes, the
track goes only through those instants at which it is itself due (`Passes`, `passes_runUntil`), and
it does not matter to it where the clock stops in between for others.
-/
namespace PersonGate

/-- What the source answers depends on the instant and the environment, and not on how often it was
asked before. -/
def TokenSource.DependsOnTime (source : TokenSource) : Prop :=
  ∀ a b : TokenCall, a.instant = b.instant → a.environment = b.environment → source a = source b

namespace ActionPanel.Track

/-- The instant at which the clock makes the trigger move, if it does. -/
def wakesAt? (track : Track) : Option Nat :=
  match track.tasks with
  | [(_, phase)] => phase.wakesAt?
  | _ => none

/-- What a trigger becomes when the clock makes it move. -/
def wake (setting : PanelSetting) (instant : Nat) (answer : Except TokenError BearerToken)
    (track : Track) : Track :=
  match track.tasks with
  | [(action, .waiting _)] =>
    dispatch setting.config (setting.endpoint.receive instant) instant answer action track.history
  | [(_, .inFlight _ _)] => track.resolve instant (.error .timedOut)
  | _ => track

/-- What a trigger becomes when the replies are delivered. -/
def deliver (instant : Nat) (track : Track) : Track :=
  match track.tasks with
  | [(_, .inFlight _ (.answered reply))] => track.resolve instant reply.result
  | _ => track

/-- What a trigger becomes at an instant at which it is due. -/
def moment (setting : PanelSetting) (instant : Nat) (answer : Except TokenError BearerToken)
    (track : Track) : Track :=
  (track.wake setting instant answer).deliver instant

theorem length_wake {setting : PanelSetting} {track : Track} (h : track.tasks.length ≤ 1)
    (instant : Nat) (answer : Except TokenError BearerToken) :
    (track.wake setting instant answer).tasks.length ≤ 1 := by
  unfold wake
  split
  · unfold dispatch
    split
    · exact Nat.zero_le _
    · simp only
      split
      · exact Nat.zero_le _
      · exact Nat.le_refl _
  · exact Nat.zero_le _
  · exact h

/-- Between two instants a trigger is over, it waits, or its request is held. -/
inductive Resting : Track → Prop
  | done (history : History) : Resting ⟨[], history⟩
  | waiting (action : PersonAction) (due : Nat) (history : History) :
    Resting ⟨[(action, .waiting due)], history⟩
  | held (action : PersonAction) (limit : Option Nat) (history : History) :
    Resting ⟨[(action, .inFlight limit .held)], history⟩

namespace Resting
variable {track : Track}

theorem length (h : track.Resting) : track.tasks.length ≤ 1 := by
  cases h <;> simp

theorem deliver (h : track.Resting) (instant : Nat) : track.deliver instant = track := by
  cases h <;> rfl

theorem moment (h : track.Resting) (setting : PanelSetting) (instant : Nat)
    (answer : Except TokenError BearerToken) : (track.moment setting instant answer).Resting := by
  cases h with
  | done history => exact .done history
  | held action limit history => exact .done _
  | waiting action due history =>
    cases answer with
    | error cause => exact .done _
    | ok token =>
      simp only [Track.moment, wake, dispatch]
      cases setting.endpoint.receive instant (setting.config.request token action) with
      | refused => exact .done _
      | answered reply => exact .done _
      | held => exact .held _ _ _

end Resting
end ActionPanel.Track

namespace TimedPanel
open ActionPanel

variable {setting : PanelSetting} {s : TimedPanel} {id : Nat}

/-! ## One trigger in a round -/

theorem track_wake_other (setting : PanelSetting) (s : TimedPanel) (task : Task)
    (h : open? id task = none) : (wake setting s task).panel.track id = s.panel.track id := by
  rcases open?_eq_none h with hid | hover
  · unfold wake
    split
    · exact track_dispatch_other hid _ _ _ _ _
    · exact track_resolve_other hid _ _ _
    · rfl
    · rfl
  · simp only [wake, hover]

theorem track_deliver_other (s : TimedPanel) (task : Task) (h : open? id task = none) :
    (deliver s task).panel.track id = s.panel.track id := by
  rcases open?_eq_none h with hid | hover
  · unfold deliver
    split
    · exact track_resolve_other hid _ _ _
    · rfl
  · simp only [deliver, reply?, hover]

section
variable {act : TimedPanel → Task → TimedPanel}
  (hother : ∀ s task, open? id task = none → (act s task).panel.track id = s.panel.track id)
include hother

theorem track_foldl_other {tasks : List Task} (h : tasks.filterMap (open? id) = [])
    (s : TimedPanel) : (tasks.foldl act s).panel.track id = s.panel.track id := by
  rw [List.filterMap_eq_nil_iff] at h
  induction tasks generalizing s with
  | nil => rfl
  | cons task rest ih =>
    rw [List.foldl_cons, ih (fun other ho => h other (List.mem_cons_of_mem task ho)),
      hother s task (h task (by simp))]

/-- In a round over all tasks a trigger sees its own task move, on a panel that is the same to
it. -/
theorem track_foldl_own (hact : ∀ s task, ∃ panel, act s task = { s with panel := panel })
    {tasks : List Task} {x : PersonAction × TaskPhase} (h : tasks.filterMap (open? id) = [x])
    (s : TimedPanel) :
    ∃ task panel, open? id task = some x ∧ panel.track id = s.panel.track id ∧
      (tasks.foldl act s).panel.track id = (act { s with panel := panel } task).panel.track id := by
  obtain ⟨before, task, after, rfl, hbefore, hown, hafter⟩ := List.filterMap_eq_cons_iff.1 h
  have hsame := track_foldl_other hother (List.filterMap_eq_nil_iff.2 hbefore) s
  obtain ⟨panel, hpanel⟩ := foldl_eq hact before s
  rw [hpanel] at hsame
  refine ⟨task, panel, hown, hsame, ?_⟩
  rw [List.foldl_append, List.foldl_cons, hpanel, track_foldl_other hother hafter]

end

theorem isDue_eq (instant : Nat) (task : Task) :
    isDue instant task = task.phase.wakesAt?.any fun t => t ≤ instant := by
  unfold isDue
  split <;> rename_i h <;> rw [h] <;> rfl

/-- The open tasks of a trigger that are due. -/
theorem filterMap_filter_isDue (instant id : Nat) (tasks : List Task) :
    (tasks.filter (isDue instant)).filterMap (open? id) =
      (tasks.filterMap (open? id)).filter fun x => x.2.wakesAt?.any fun t => t ≤ instant := by
  rw [List.filterMap_filter, List.filter_filterMap]
  refine List.filterMap_congr fun task _ => ?_
  rw [isDue_eq]
  cases hx : open? id task with
  | none => simp
  | some x =>
    obtain ⟨-, -, hphase⟩ := open?_eq_some hx
    rw [hphase]
    rfl

/-- In the first round a trigger whose task is due moves, with some answer of the token source. -/
theorem track_wakeAll (setting : PanelSetting) (s : TimedPanel)
    (hone : (s.panel.track id).tasks.length ≤ 1) :
    ∃ index, ((s.panel.tasks.filter (isDue s.now)).foldl (wake setting) s).panel.track id =
      if (s.panel.track id).wakesAt?.any fun t => t ≤ s.now then
        (s.panel.track id).wake setting s.now (setting.source ⟨index, s.now, s.environment⟩)
      else s.panel.track id := by
  have hround := filterMap_filter_isDue s.now id s.panel.tasks
  change _ = (s.panel.track id).tasks.filter _ at hround
  match htasks : (s.panel.track id).tasks, hone with
  | [], _ =>
    rw [htasks] at hround
    refine ⟨0, ?_⟩
    rw [track_foldl_other (track_wake_other setting) hround, Track.wakesAt?, htasks]
    rfl
  | [(action, phase)], _ =>
    rw [htasks] at hround
    have hwakes : (s.panel.track id).wakesAt? = phase.wakesAt? := by rw [Track.wakesAt?, htasks]
    rw [hwakes]
    cases hdue : phase.wakesAt?.any fun t => t ≤ s.now with
    | false =>
      rw [List.filter_cons_of_neg (by simpa using hdue)] at hround
      exact ⟨0, track_foldl_other (track_wake_other setting) hround s⟩
    | true =>
      rw [List.filter_cons_of_pos (by exact hdue)] at hround
      obtain ⟨task, panel, hopen, hsame, hstep⟩ :=
        track_foldl_own (track_wake_other setting) (wake_eq setting) hround s
      obtain ⟨rfl, -, hphase⟩ := open?_eq_some hopen
      have htrack : panel.track task.id = ⟨[(action, phase)], (s.panel.track task.id).history⟩ :=
        hsame.trans (Track.eq_mk htasks)
      refine ⟨tokenCalls panel.log, ?_⟩
      rw [hstep, if_pos rfl, Track.wake, htasks]
      cases phase with
      | waiting due =>
        simp only [wake, hphase]
        exact track_dispatch htrack _ _ _ _
      | inFlight limit reception =>
        simp only [wake, hphase]
        rw [track_resolve htrack, hsame]
      | asking | finished => cases hdue

/-- In the second round a trigger gets the reply that is there for it. -/
theorem track_deliverAll (s : TimedPanel) (hone : (s.panel.track id).tasks.length ≤ 1) :
    (s.panel.tasks.foldl deliver s).panel.track id = (s.panel.track id).deliver s.now := by
  match htasks : (s.panel.track id).tasks, hone with
  | [], _ =>
    rw [track_foldl_other track_deliver_other htasks, Track.deliver, htasks]
  | [(action, phase)], _ =>
    obtain ⟨task, panel, hopen, hsame, hround⟩ :=
      track_foldl_own track_deliver_other deliver_eq htasks s
    obtain ⟨rfl, -, hphase⟩ := open?_eq_some hopen
    have htrack : panel.track task.id = ⟨[(action, phase)], (s.panel.track task.id).history⟩ :=
      hsame.trans (Track.eq_mk htasks)
    rw [hround, Track.deliver, htasks]
    cases phase with
    | inFlight limit reception =>
      cases reception with
      | answered reply =>
        simp only [deliver, reply?, hphase]
        rw [track_resolve htrack, hsame]
      | refused | held =>
        simp only [deliver, reply?, hphase]
        exact hsame
    | waiting _ | asking | finished =>
      simp only [deliver, reply?, hphase]
      exact hsame

/-- Both rounds of an instant. -/
theorem track_runDue (setting : PanelSetting) (s : TimedPanel)
    (hone : (s.panel.track id).tasks.length ≤ 1) :
    ∃ index, (runDue setting s).panel.track id =
      if (s.panel.track id).wakesAt?.any fun t => t ≤ s.now then
        (s.panel.track id).moment setting s.now (setting.source ⟨index, s.now, s.environment⟩)
      else (s.panel.track id).deliver s.now := by
  obtain ⟨index, hwoken⟩ := track_wakeAll setting s hone
  obtain ⟨panel, hpanel⟩ := foldl_eq (wake_eq setting) (s.panel.tasks.filter (isDue s.now)) s
  refine ⟨index, ?_⟩
  rw [runDue, hpanel]
  rw [hpanel] at hwoken
  rw [track_deliverAll]
  · rw [hwoken]
    split <;> rfl
  · rw [hwoken]
    split
    · exact Track.length_wake hone _ _
    · exact hone

/-! ## One trigger from instant to instant -/

/-- Time passes for a trigger up to a limit: it goes through each instant at which it is due. Which
answer the token source then gives may depend on how often it was asked before. -/
inductive Passes (setting : PanelSetting) (environment : Environment) (limit : Option Nat) :
    Nat → Track → Track → Prop
  | rest {now : Nat} {track : Track} (h : ∀ w, track.wakesAt? = some w → ¬Within limit w) :
    Passes setting environment limit now track track
  | moment {now w : Nat} {track last : Track} (index : Nat) (hw : track.wakesAt? = some w)
    (hlimit : Within limit w)
    (h : Passes setting environment limit (max now w) (track.moment setting (max now w)
      (setting.source ⟨index, max now w, environment⟩)) last) :
    Passes setting environment limit now track last

namespace Passes
variable {environment : Environment} {limit : Option Nat} {now : Nat} {track last : Track}

/-- Nothing is left up to the limit. -/
theorem after (h : Passes setting environment limit now track last) {w : Nat}
    (hw : last.wakesAt? = some w) : ¬Within limit w := by
  induction h with
  | rest h => exact h w hw
  | moment index _ _ _ ih => exact ih hw

theorem eq_of_wakesAt?_eq_none (h : Passes setting environment limit now track last)
    (hnone : track.wakesAt? = none) : last = track := by
  cases h with
  | rest _ => rfl
  | moment index hw _ _ =>
    rw [hnone] at hw
    cases hw

/-- The clock may start earlier, if nothing is due in between. -/
theorem earlier {later : Nat} (h : Passes setting environment limit later track last)
    (hle : now ≤ later) (hahead : ∀ w, track.wakesAt? = some w → later ≤ w) :
    Passes setting environment limit now track last := by
  cases h with
  | rest h => exact .rest h
  | moment index hw hlimit h =>
    have hlater := hahead _ hw
    rw [Nat.max_eq_right hlater] at h
    refine .moment index hw hlimit ?_
    rwa [Nat.max_eq_right (Nat.le_trans hle hlater)]

/-- A source that does not count its calls leaves only one way. -/
theorem unique {other : Track} (h : Passes setting environment limit now track last)
    (h' : Passes setting environment limit now track other)
    (hsource : setting.source.DependsOnTime) : last = other := by
  induction h generalizing other with
  | rest h =>
    cases h' with
    | rest _ => rfl
    | moment _ hw hlimit _ => exact absurd hlimit (h _ hw)
  | moment index hw hlimit _ ih =>
    cases h' with
    | rest h => exact absurd hlimit (h _ hw)
    | moment index' hw' _ h =>
      obtain rfl := Option.some.inj (hw.symm.trans hw')
      rw [hsource ⟨index', _, environment⟩ ⟨index, _, environment⟩ rfl rfl] at h
      exact ih h

end Passes

theorem exists_task_of_wakesAt? {panel : ActionPanel} {w : Nat}
    (h : (panel.track id).wakesAt? = some w) :
    ∃ task ∈ panel.tasks, task.phase.wakesAt? = some w := by
  unfold Track.wakesAt? at h
  split at h
  · rename_i action phase htasks
    have hmem : (action, phase) ∈ panel.tasks.filterMap (open? id) := by
      show _ ∈ (panel.track id).tasks
      rw [htasks]
      exact List.mem_singleton_self _
    obtain ⟨task, htask, hopen⟩ := List.mem_filterMap.1 hmem
    exact ⟨task, htask, (open?_eq_some hopen).2.2 ▸ h⟩
  · cases h

/-- While time passes for a panel, it passes for each trigger. -/
theorem passes_runUntil (setting : PanelSetting) {limit : Option Nat} {s : TimedPanel}
    (hnow : Within limit s.now) (hrest : (s.panel.track id).Resting) :
    Passes setting s.environment limit s.now (s.panel.track id)
      ((runUntil setting limit s).panel.track id) := by
  induction s using runUntil.induct setting limit with
  | case1 s hnone =>
    rw [runUntil_of_none hnone]
    refine .rest fun w hw => ?_
    obtain ⟨task, hmem, hphase⟩ := exists_task_of_wakesAt? hw
    exact next?_eq_none hnone hmem hphase
  | case2 s t hsome ih =>
    obtain ⟨-, hfirst, hlimit⟩ := next?_eq_some hsome
    have hclock : Within limit (max s.now t) := fun l hl => Nat.max_le.2 ⟨hnow l hl, hlimit l hl⟩
    obtain ⟨index, hdue⟩ := track_runDue setting { s with now := max s.now t } hrest.length
    obtain ⟨panel, hpanel⟩ := runDue_eq setting { s with now := max s.now t }
    rw [runUntil_of_some hsome]
    rw [hpanel] at ih hdue ⊢
    -- unless the trigger itself is due, the clock stops here for others
    have hothers : (∀ w, (s.panel.track id).wakesAt? = some w → max s.now t < w) →
        panel.track id = s.panel.track id →
        Passes setting s.environment limit s.now (s.panel.track id)
          ((runUntil setting limit
            { s with now := max s.now t, panel := panel }).panel.track id) := by
      intro hahead hsame
      have hpasses := ih hclock (by rwa [hsame])
      simp only [hsame] at hpasses
      exact hpasses.earlier (Nat.le_max_left _ _) fun w hw => Nat.le_of_lt (hahead w hw)
    cases hw : (s.panel.track id).wakesAt? with
    | none =>
      simp only [hw, Option.any_none, Bool.false_eq_true, if_false, hrest.deliver] at hdue
      exact hothers (by simp [hw]) hdue
    | some w =>
      by_cases hle : w ≤ max s.now t
      · simp only [hw, Option.any_some, hle, decide_true, if_true] at hdue
        obtain ⟨task, hmem, hphase⟩ := exists_task_of_wakesAt? hw
        have hmax : max s.now t = max s.now w := by
          have := hfirst task hmem w hphase
          omega
        refine .moment index hw (hclock.of_le hle) ?_
        rw [← hmax, ← hdue]
        exact ih hclock (hdue ▸ hrest.moment _ _ _)
      · simp only [hw, Option.any_some, hle, decide_false, Bool.false_eq_true, if_false,
          hrest.deliver] at hdue
        exact hothers (by rw [hw]; rintro u ⟨⟩; omega) hdue

end TimedPanel
end PersonGate
