import PersonGate.Proofs.Panel.Single
import PersonGate.Proofs.Panel.Teardown
/-!
# The fate of a trigger

What a panel holds of a trigger is decided by the environment in which its token was asked for, by
what the other side does with its request, and by the replies that the request got: the `Fate` of
the trigger. In a session the token is asked for in the first step that lets tasks run up to the end
of the wait (`environmentAt?`), and a reply is for the request that it finds held (`repliesTo`). The
course goes on with every moment of the trigger (`Fate.moment`) and with every step of a session
(`fate_step`) until the panel is gone, and `fate_after` is what it has come to in the end.
-/
namespace PersonGate

/-- Is the event part of the end of a request? -/
def TaskEvent.isEnd : TaskEvent → Bool
  | .ended _ | .finished _ | .notified _ => true
  | .scheduled _ | .sending | .tokenCall _ | .attempt _ _ => false

namespace ActionPanel

/-- What becomes of a request that was sent at an instant. It ends at once, or it is held; then a
reply before its time limit ends it, or else the limit does, if there is one. -/
inductive Resolves (limit : Option Nat) (e : Nat) (sent : Reception → Track) :
    Reception → List (Nat × Reply) → Track → Prop
  | refused : Resolves limit e sent .refused [] ((sent .refused).resolve e (.error .broken))
  | answered (reply : Reply) :
    Resolves limit e sent (.answered reply) [] ((sent (.answered reply)).resolve e reply.result)
  | held : Resolves limit e sent .held [] (sent .held)
  | replied {u : Nat} (reply : Reply) (hle : e ≤ u) (hin : ∀ d, limit = some d → u < d) :
    Resolves limit e sent .held [(u, reply)] ((sent .held).resolve u reply.result)
  | givenUp {d : Nat} (h : limit = some d) :
    Resolves limit e sent .held [] ((sent .held).resolve d (.error .timedOut))

/-- What has become of a trigger made at an instant, by the environment in which its token was asked
for and by the replies to its request. -/
inductive Fate (setting : PanelSetting) (t : Nat) (action : PersonAction) :
    Option Environment → List (Nat × Reply) → Track → Prop
  | waiting : Fate setting t action none [] (.triggered setting.config t action)
  | abandoned {index : Nat} {environment : Environment} {cause : TokenError}
    (hsource : setting.source ⟨index, setting.config.sendsAt t, environment⟩ = .error cause) :
    Fate setting t action (some environment) [] (.abandoned setting.config t action cause)
  | sent {index : Nat} {environment : Environment} {token : BearerToken} {reception : Reception}
    {replies : List (Nat × Reply)} {track : Track}
    (hsource : setting.source ⟨index, setting.config.sendsAt t, environment⟩ = .ok token)
    (hreception : setting.endpoint.receive (setting.config.sendsAt t)
      (setting.config.request token action) = reception)
    (h : Resolves (deadline setting.config (setting.config.sendsAt t)) (setting.config.sendsAt t)
      (Track.sent setting.config t action token) reception replies track) :
    Fate setting t action (some environment) replies track

/-- After its request was sent, a trigger has only the end of that before it. -/
theorem Resolves.history {limit : Option Nat} {e : Nat} {sent : Reception → Track}
    {reception : Reception} {replies : List (Nat × Reply)} {track : Track}
    (h : Resolves limit e sent reception replies track) :
    ∃ rest, track.history = (sent reception).history ++ rest ∧
      ∀ entry ∈ rest, entry.2.isEnd = true := by
  cases h with
  | held => exact ⟨[], (List.append_nil _).symm, by simp⟩
  | refused | answered | replied | givenUp => exact ⟨_, rfl, by simp [TaskEvent.isEnd]⟩

namespace Fate
variable {setting : PanelSetting} {t : Nat} {action : PersonAction} {asked : Option Environment}
  {replies : List (Nat × Reply)} {track : Track}

/-- A trigger whose token was not asked for waits. -/
theorem wakesAt? (h : Fate setting t action none replies track) :
    track.wakesAt? = some (setting.config.sendsAt t) := by
  cases h
  rfl

/-- The fate goes on when the clock makes the trigger move. -/
theorem moment (h : Fate setting t action asked replies track) {w : Nat}
    (hw : track.wakesAt? = some w) (index : Nat) (environment : Environment) :
    Fate setting t action (asked.or (some environment)) replies
      (track.moment setting w (setting.source ⟨index, w, environment⟩)) := by
  cases h with
  | abandoned => cases hw
  | waiting =>
    obtain rfl : setting.config.sendsAt t = w := Option.some.inj hw
    rw [Track.moment_triggered]
    cases hsource : setting.source ⟨index, setting.config.sendsAt t, environment⟩ with
    | error cause => exact .abandoned hsource
    | ok token =>
      simp only
      cases hreception : setting.endpoint.receive (setting.config.sendsAt t)
        (setting.config.request token action) with
      | refused => exact .sent hsource hreception .refused
      | answered reply => exact .sent hsource hreception (.answered reply)
      | held => exact .sent hsource hreception .held
  | sent hsource hreception hresolves =>
    cases hresolves with
    | held => exact .sent hsource hreception (.givenUp hw)
    | refused | answered | replied | givenUp => cases hw

/-- The fate goes on while time passes up to an instant. -/
theorem passes {environment : Environment} {live : Bool} {now l : Nat} {phase : TaskPhase}
    {last : Track} (hpasses : TimedPanel.Passes setting environment (some l) now track last)
    (h : Fate setting t action asked replies track)
    (htime : OnTime setting.config t action live now phase track) :
    Fate setting t action
      (asked.or (if setting.config.sendsAt t ≤ l then some environment else none)) replies last := by
  generalize hlimit : some l = limit at hpasses
  induction hpasses generalizing asked phase with
  | rest hrest =>
    subst hlimit
    cases asked with
    | some environment => exact h
    | none => rwa [Option.none_or, if_neg (mt TimedPanel.within_some.2 (hrest _ h.wakesAt?))]
  | moment index hw hwithin _ ih =>
    subst hlimit
    rw [Nat.max_eq_right (htime.ahead _ hw)] at ih
    obtain ⟨_, hmoment⟩ := htime.moment hw _
    have hlast := ih (h.moment hw index environment) hmoment
    cases asked with
    | some environment => exact hlast
    | none =>
      obtain rfl := Option.some.inj (h.wakesAt?.symm.trans hw)
      rwa [Option.none_or, if_pos (hwithin l rfl)]

/-- A reply ends a request that is held. -/
theorem reply (h : Fate setting t action asked replies track) {other : PersonAction}
    {limit : Option Nat} (htasks : track.tasks = [(other, .inFlight limit .held)]) {u : Nat}
    (hpast : ∀ entry ∈ track.history, entry.1 ≤ u)
    (hahead : ∀ w, track.wakesAt? = some w → u < w) (reply : Reply) :
    Fate setting t action asked (replies ++ [(u, reply)]) (track.resolve u reply.result) := by
  cases h with
  | waiting | abandoned => cases htasks
  | sent hsource hreception hresolves =>
    cases hresolves with
    | held =>
      have hle : setting.config.sendsAt t ≤ u := hpast (setting.config.sendsAt t, .sending)
        (by simp [Track.sent])
      exact .sent hsource hreception (.replied reply hle hahead)
    | refused | answered | replied | givenUp => cases htasks

end Fate
end ActionPanel

/-! ## In a session -/

namespace TimedPanel
open ActionPanel

/-- The environment in which a step lets tasks run up to an instant, if it does. -/
def askedIn? (setting : PanelSetting) (horizon : Option Nat) (e : Nat) (s : TimedPanel)
    (step : Step) : Option Environment :=
  if s.live ∧ step.runs ∧ e ≤ (s.step setting horizon step).1.now then some s.environment else none

/-- The environment at an instant, for the tasks of a panel: that in which they are first let run up
to it while the panel is there. -/
def environmentAt? (setting : PanelSetting) (horizon : Option Nat) (e : Nat) :
    TimedPanel → List Step → Option Environment
  | _, [] => none
  | s, step :: rest =>
    (s.askedIn? setting horizon e step).or
      (environmentAt? setting horizon e (s.step setting horizon step).1 rest)

/-- The reply that a step brings for the request of a trigger, with the instant. -/
def repliesIn (setting : PanelSetting) (id : Nat) (s : TimedPanel) : Step → List (Nat × Reply)
  | .reply action reply =>
    if ((s.advance setting 0).held? action.method).any fun task => task.id = id then
      [(s.now, reply)]
    else []
  | _ => []

/-- The replies for the request of a trigger, with their instants. -/
def repliesTo (setting : PanelSetting) (horizon : Option Nat) (id : Nat) :
    TimedPanel → List Step → List (Nat × Reply)
  | _, [] => []
  | s, step :: rest =>
    s.repliesIn setting id step ++ repliesTo setting horizon id (s.step setting horizon step).1 rest

variable {setting : PanelSetting} {horizon : Option Nat} {s : TimedPanel} {id t : Nat}
  {action : PersonAction} {asked : Option Environment} {replies : List (Nat × Reply)}
  {made : List (Nat × PersonAction)} {track : Track}

/-- The track of a trigger, of which only the history is left when the panel is gone. -/
def keeps (s : TimedPanel) (track : Track) : Track := if s.live then track else ⟨[], track.history⟩

theorem history_keeps (s : TimedPanel) (track : Track) : (s.keeps track).history = track.history := by
  unfold keeps
  split <;> rfl

theorem environmentAt?_append (setting : PanelSetting) (horizon : Option Nat) (e : Nat)
    (s : TimedPanel) (steps more : List Step) :
    environmentAt? setting horizon e s (steps ++ more) =
      (environmentAt? setting horizon e s steps).or
        (environmentAt? setting horizon e (s.after setting horizon steps) more) := by
  induction steps generalizing s with
  | nil => rfl
  | cons step rest ih =>
    rw [List.cons_append, environmentAt?, environmentAt?, ih, Option.or_assoc]
    rfl

theorem repliesTo_append (setting : PanelSetting) (horizon : Option Nat) (id : Nat)
    (s : TimedPanel) (steps more : List Step) :
    repliesTo setting horizon id s (steps ++ more) =
      repliesTo setting horizon id s steps ++
        repliesTo setting horizon id (s.after setting horizon steps) more := by
  induction steps generalizing s with
  | nil => rfl
  | cons step rest ih =>
    rw [List.cons_append, repliesTo, repliesTo, ih, List.append_assoc]
    rfl

/-- When the panel is gone no token is asked for and no reply finds a request. -/
theorem Gone.quiet (h : s.Gone) (setting : PanelSetting) (horizon : Option Nat) (e id : Nat)
    (steps : List Step) :
    environmentAt? setting horizon e s steps = none ∧ repliesTo setting horizon id s steps = [] := by
  induction steps generalizing s with
  | nil => exact ⟨rfl, rfl⟩
  | cons step rest ih =>
    obtain ⟨henvironment, hreplies⟩ := ih (h.step setting horizon step).2
    have hasked : s.askedIn? setting horizon e step = none := by simp [askedIn?, h.dead]
    have hnone : s.repliesIn setting id step = [] := by
      cases step with
      | reply action reply =>
        rw [repliesIn, advance_of_atRest h.atRest,
          held?_of_atRest (s := { s with now := s.now + 0 }) h.atRest]
        rfl
      | _ => rfl
    rw [environmentAt?, repliesTo, henvironment, hreplies, hasked, hnone]
    exact ⟨rfl, rfl⟩

/-! ### One step -/

theorem askedIn?_of_runs (hlive : s.live = true) {step : Step} (hruns : step.runs = true) (e : Nat) :
    s.askedIn? setting horizon e step =
      if e ≤ (s.step setting horizon step).1.now then some s.environment else none := by
  simp [askedIn?, hlive, hruns]

theorem fate_advance (hs : Orderly setting.config made s) (hmade : made[id]? = some (t, action))
    (h : Fate setting t action asked replies (s.panel.track id)) (span : Nat) :
    Fate setting t action
      (asked.or (if setting.config.sendsAt t ≤ s.now + span then some s.environment else none))
      replies ((s.advance setting span).panel.track id) := by
  obtain ⟨_, htime⟩ := hs.timely id t action hmade
  exact h.passes (passes_advance htime.resting setting span) htime

theorem fate_reply (hs : Orderly setting.config made s) (hmade : made[id]? = some (t, action))
    (h : Fate setting t action asked replies (s.panel.track id)) (method : PersonAction)
    (reply : Reply) :
    Fate setting t action
      (asked.or (if setting.config.sendsAt t ≤ s.now then some s.environment else none))
      (replies ++ s.repliesIn setting id (.reply method reply))
      ((s.reply setting method reply).1.panel.track id) := by
  have hready := fate_advance hs hmade h 0
  rw [Nat.add_zero] at hready
  have hsReady := hs.advance 0
  rw [reply_eq, repliesIn]
  cases hheld : (s.advance setting 0).held? method.method with
  | none => simpa using hready
  | some task =>
    obtain ⟨-, limit, htasks⟩ := track_of_held? hsReady.resting hheld
    by_cases hid : task.id = id
    · subst hid
      obtain ⟨_, htime⟩ := hsReady.timely _ t action hmade
      have hahead : ∀ w, ((s.advance setting 0).panel.track task.id).wakesAt? = some w →
          s.now < w := fun w hw =>
        Nat.lt_of_not_le (mt within_some.2 ((passes_advance (hs.resting _) setting 0).after hw))
      rw [Option.any_some, decide_eq_true rfl, if_pos rfl]
      show Fate _ _ _ _ _ (((s.advance setting 0).panel.resolve _ _ _).track task.id)
      rw [track_resolve (Track.eq_mk htasks)]
      exact hready.reply htasks htime.past hahead reply
    · have hother : ((s.advance setting 0).panel.resolve s.now task.id reply.result).track id =
          (s.advance setting 0).panel.track id := track_resolve_other (Ne.symm hid) _ _ _
      simpa [hid, hother] using hready

/-- The fate of a trigger goes on with every step. -/
theorem fate_step (hs : Orderly setting.config made s) (hmade : made[id]? = some (t, action))
    (hlive : s.live = true) (h : Fate setting t action asked replies (s.panel.track id))
    (horizon : Option Nat) (step : Step) :
    let next := (s.step setting horizon step).1
    ∃ track, next.panel.track id = next.keeps track ∧
      Fate setting t action
        (asked.or (s.askedIn? setting horizon (setting.config.sendsAt t) step))
        (replies ++ s.repliesIn setting id step) track := by
  intro next
  have hthere : ∀ {a r}, next.live = true → Fate setting t action a r (next.panel.track id) →
      ∃ track, next.panel.track id = next.keeps track ∧ Fate setting t action a r track :=
    fun hnext hfate => ⟨_, (if_pos hnext).symm, hfate⟩
  have hidle : step.runs = false → s.askedIn? setting horizon (setting.config.sendsAt t) step =
      none := fun hruns => by simp [askedIn?, hruns]
  have hnone : (∀ method reply, step ≠ .reply method reply) → s.repliesIn setting id step = [] := by
    intro h
    cases step with
    | reply method reply => exact absurd rfl (h method reply)
    | _ => rfl
  cases step with
  | advance span =>
    rw [askedIn?_of_runs hlive rfl, hnone (by simp), List.append_nil]
    exact hthere ((live_advance setting s span).trans hlive) (fate_advance hs hmade h span)
  | reply method reply =>
    have hnow : next.now = s.now := by
      simp only [next, TimedPanel.step, reply_eq]
      split <;> rfl
    rw [askedIn?_of_runs hlive rfl, hnow]
    exact hthere ((live_reply setting s method reply).trans hlive)
      (fate_reply hs hmade h method reply)
  | waitIdle =>
    obtain ⟨span, -, hstep⟩ := waitIdle_eq setting s horizon
    obtain ⟨hnow, hnext, htrack⟩ : next.now = s.now + span ∧
        next.live = (s.advance setting span).live ∧
        next.panel.track id = (s.advance setting span).panel.track id := by
      simp only [next]
      rcases hstep hlive with hsame | hreaped
      · rw [hsame]
        exact ⟨rfl, rfl, rfl⟩
      · rw [hreaped]
        exact ⟨rfl, rfl, track_collect _ _ id⟩
    rw [askedIn?_of_runs hlive rfl, hnow, hnone (by simp), List.append_nil]
    exact hthere (hnext.trans ((live_advance setting s span).trans hlive))
      (htrack ▸ fate_advance hs hmade h span)
  | trigger other =>
    have hnext : next = s.trigger setting other := by
      simp only [next, TimedPanel.step, hlive, if_true]
    have hid : id ≠ s.panel.triggers := by
      rw [hs.count]
      exact Nat.ne_of_lt (List.getElem?_eq_some_iff.1 hmade).1
    have htrack : next.panel.track id = s.panel.track id := by
      rw [hnext]
      exact track_schedule_other hid _ _ _
    rw [hidle rfl, hnone (by simp), List.append_nil, Option.or_none]
    exact hthere (by rw [hnext]; exact hlive) (htrack ▸ h)
  | render =>
    have hnext : next = s := by simp only [next, TimedPanel.step, hlive, if_true]
    rw [hidle rfl, hnone (by simp), List.append_nil, Option.or_none]
    exact hthere (by rw [hnext]; exact hlive) (by rw [hnext]; exact h)
  | setVariable | unsetVariable =>
    rw [hidle rfl, hnone (by simp), List.append_nil, Option.or_none]
    exact hthere hlive h
  | teardown | drop =>
    have hnext : next.live = false ∧ next.panel.track id = ⟨[], (s.panel.track id).history⟩ := by
      simp only [next, TimedPanel.step, hlive, if_true]
      exact ⟨rfl, rfl⟩
    rw [hidle rfl, hnone (by simp), List.append_nil, Option.or_none]
    exact ⟨_, by rw [hnext.2, keeps, hnext.1]; rfl, h⟩

/-! ### Sessions -/

/-- The fate of a trigger after any steps. -/
theorem fate_after (hs : Orderly setting.config made s) (hmade : made[id]? = some (t, action))
    (hlive : s.live = true) (h : Fate setting t action asked replies (s.panel.track id))
    (horizon : Option Nat) (steps : List Step) :
    let last := s.after setting horizon steps
    ∃ track, last.panel.track id = last.keeps track ∧
      Fate setting t action
        (asked.or (environmentAt? setting horizon (setting.config.sendsAt t) s steps))
        (replies ++ repliesTo setting horizon id s steps) track := by
  induction steps generalizing s asked replies made with
  | nil =>
    rw [environmentAt?, repliesTo, Option.or_none, List.append_nil]
    exact ⟨_, (if_pos hlive).symm, h⟩
  | cons step rest ih =>
    obtain ⟨track, htrack, hfate⟩ := fate_step hs hmade hlive h horizon step
    rw [environmentAt?, repliesTo, ← Option.or_assoc, ← List.append_assoc]
    rcases live_or_gone_step hlive step with hnext | hgone
    · obtain ⟨_, hsNext⟩ := hs.step horizon step
      rw [keeps, if_pos hnext] at htrack
      refine ih hsNext ?_ hnext (htrack ▸ hfate)
      rw [List.getElem?_append_left (List.getElem?_eq_some_iff.1 hmade).1, hmade]
    · obtain ⟨henvironment, hreplies⟩ := hgone.quiet setting horizon (setting.config.sendsAt t) id
        rest
      obtain ⟨hpanel, hlast⟩ := hgone.after setting horizon rest
      rw [henvironment, hreplies, Option.or_none, List.append_nil]
      refine ⟨track, ?_, hfate⟩
      have hkept : ∀ {next : TimedPanel}, next.Gone → next.keeps track = ⟨[], track.history⟩ :=
        fun h => if_neg (by simp [h.dead])
      show ((s.step setting horizon step).1.after setting horizon rest).panel.track id = _
      rw [hpanel, htrack, hkept hgone]
      exact (hkept hlast).symm

/-- What has become of a trigger that was made in a session, while the panel is there; and when it
is gone the history of the trigger is what it was. -/
theorem fate_trigger (hs : Orderly setting.config made s) (hlive : s.live = true)
    (horizon : Option Nat) (action : PersonAction) (later : List Step) :
    let steps := .trigger action :: later
    let final := s.after setting horizon steps
    ∃ track, historyOf final.panel.log s.panel.triggers = track.history ∧
      (final.live = true → final.panel.track s.panel.triggers = track) ∧
      Fate setting s.now action
        (environmentAt? setting horizon (setting.config.sendsAt s.now) s steps)
        (repliesTo setting horizon s.panel.triggers s steps) track := by
  intro steps final
  have hstep : (s.step setting horizon (.trigger action)).1 = s.trigger setting action := by
    simp only [TimedPanel.step, hlive, if_true]
  have hnew : (s.trigger setting action).panel.track s.panel.triggers =
      .triggered setting.config s.now action :=
    track_schedule_self (hs.fresh _ (Nat.le_of_eq hs.count.symm)) _ _ _
  have hmade : (made ++ [(s.now, action)])[s.panel.triggers]? = some (s.now, action) := by
    simp [hs.count]
  obtain ⟨track, htrack, hfate⟩ := fate_after (hs.trigger hlive action) hmade hlive
    (hnew ▸ Fate.waiting) horizon later
  rw [← hstep] at htrack hfate
  refine ⟨track, ?_, fun hthere => htrack.trans (if_pos hthere), ?_⟩
  · exact (congrArg Track.history htrack).trans (history_keeps final track)
  · -- the trigger itself lets no task run and brings no reply
    have hasked : s.askedIn? setting horizon (setting.config.sendsAt s.now) (.trigger action) =
        none := by simp [askedIn?, Step.runs]
    rw [environmentAt?, hasked]
    exact hfate

end TimedPanel
end PersonGate
