import Mathlib.Data.List.Induction
import PersonGate.Config.Client
import PersonGate.Proofs.Text.Padded
/-!
# Clients however they are put together

A client starts from an address and is changed by any number of adjustments (`build`). Its address
is the one it was given up to the slashes at its end (`LongestBare`), which no adjustment touches,
and the wait and the limit are those of the last adjustment of their kind (`foldl_adjust`). So the
order counts only among adjustments of one kind, and addresses that differ in the slashes at their
ends make the same client.

The headline is `build_exact`.
-/
namespace PersonGate

/-! ## Beginnings of a text -/

namespace Text

theorem dropEnd_prefix (p : Char → Bool) (t : Text) : dropEnd p t <+: t :=
  ⟨_, dropEnd_append_takeWhile p t⟩

/-- No longer beginning of the text ends with a character that stays. -/
theorem prefix_dropEnd {p : Char → Bool} {s t : Text} (h : s <+: t)
    (hlast : ∀ c, s.getLast? = some c → p c = false) : s <+: dropEnd p t := by
  obtain ⟨rest, rfl⟩ := h
  rcases List.eq_nil_or_concat s with rfl | ⟨init, c, rfl⟩
  · exact List.nil_prefix
  · have hc : p c = false := hlast c (by simp)
    rw [List.concat_eq_append, List.append_assoc, List.singleton_append, dropEnd_append_cons hc]
    exact ⟨dropEnd p rest, by simp⟩

end Text

namespace ClientConfig
open Text

/-! ## Addresses -/

/-- Of the beginnings of a text that do not end with a slash it is the longest. -/
structure LongestBare (t s : Text) : Prop where
  begins : s <+: t
  bare : s.getLast? ≠ some '/'
  longest : ∀ other, other <+: t → other.getLast? ≠ some '/' → other.length ≤ s.length

theorem getLast_baseUrl (base : Text) : (new base).baseUrl.getLast? ≠ some '/' :=
  fun h => absurd (getLast_dropEnd _ base h) (by decide)

theorem longestBare_baseUrl (base : Text) : LongestBare base (new base).baseUrl where
  begins := dropEnd_prefix _ base
  bare := getLast_baseUrl base
  longest := by
    intro other hother hbare
    refine (prefix_dropEnd hother fun c hc => ?_).length_le
    rw [beq_eq_false_iff_ne]
    rintro rfl
    exact hbare hc

/-- Slashes at the end of an address do not count. -/
theorem new_append_slashes (base : Text) (k : Nat) :
    new (base ++ List.replicate k '/') = new base := by
  have hslashes : ∀ c ∈ List.replicate k '/', (c == '/') = true :=
    fun c hc => beq_iff_eq.2 (List.eq_of_mem_replicate hc)
  rw [new, new, dropEnd_append_blank hslashes]

theorem exists_slashes (base : Text) :
    ∃ k, base = (new base).baseUrl ++ List.replicate k '/' := by
  let slashes := (base.reverse.takeWhile (· == '/')).reverse
  have hslashes : slashes = List.replicate slashes.length '/' := by
    refine List.eq_replicate_iff.2 ⟨rfl, fun c hc => ?_⟩
    simpa using List.all_eq_true.1 List.all_takeWhile c (List.mem_reverse.1 hc)
  refine ⟨slashes.length, ?_⟩
  rw [← hslashes]
  exact (dropEnd_append_takeWhile (· == '/') base).symm

/-- A client at the address that a client has is at the same address. -/
theorem new_baseUrl (base : Text) : new (new base).baseUrl = new base := by
  simp only [new, dropEnd_dropEnd]

theorem baseUrl_eq_iff {a b : Text} :
    (new a).baseUrl = (new b).baseUrl ↔ ∃ core j k,
      a = core ++ List.replicate j '/' ∧ b = core ++ List.replicate k '/' := by
  constructor
  · intro h
    obtain ⟨j, hj⟩ := exists_slashes a
    obtain ⟨k, hk⟩ := exists_slashes b
    exact ⟨(new a).baseUrl, j, k, hj, h ▸ hk⟩
  · rintro ⟨core, j, k, rfl, rfl⟩
    rw [new_append_slashes, new_append_slashes]

/-- There is one slash in front of the resource's name. -/
theorem not_doubled_slash {config : ClientConfig} (hbare : config.baseUrl.getLast? ≠ some '/') :
    ¬ ('/' :: personPath) <:+ config.personUrl := by
  rintro ⟨before, h⟩
  have hurl : (before ++ ['/']) ++ personPath = config.baseUrl ++ personPath := by
    rw [List.append_assoc]
    exact h
  rw [← List.append_cancel_right hurl] at hbare
  exact hbare List.getLast?_concat

/-! ## Adjustments -/

/-- A change to the settings of a client. -/
inductive Adjustment where
  | actionDelay (delay : Duration)
  | requestTimeout (timeout : Option Duration)
  deriving DecidableEq, Repr

namespace Adjustment

def delay? : Adjustment → Option Duration
  | .actionDelay delay => some delay
  | .requestTimeout _ => none

def timeout? : Adjustment → Option (Option Duration)
  | .actionDelay _ => none
  | .requestTimeout timeout => some timeout

/-- The last wait that is asked for. -/
def lastDelay? (adjustments : List Adjustment) : Option Duration :=
  (adjustments.filterMap delay?).getLast?

/-- The last limit that is asked for, which may be none. -/
def lastTimeout? (adjustments : List Adjustment) : Option (Option Duration) :=
  (adjustments.filterMap timeout?).getLast?

end Adjustment

def adjust (config : ClientConfig) : Adjustment → ClientConfig
  | .actionDelay delay => config.withActionDelay delay
  | .requestTimeout timeout => config.withRequestTimeout timeout

/-- The client at an address after these adjustments. -/
def build (base : Text) (adjustments : List Adjustment) : ClientConfig :=
  adjustments.foldl adjust (new base)

/-- A limit of zero is none. -/
theorem requestTimeout_withRequestTimeout {config : ClientConfig} {timeout : Option Duration}
    {limit : Duration} :
    (config.withRequestTimeout timeout).requestTimeout = some limit ↔
      timeout = some limit ∧ limit.nanoseconds ≠ 0 := by
  simp [withRequestTimeout, Option.filter_eq_some_iff, Duration.isZero]

/-- The last adjustment of a kind counts, and one of the other kind leaves the setting alone. -/
theorem foldl_adjust (config : ClientConfig) (adjustments : List Adjustment) :
    adjustments.foldl adjust config =
      { config with
        actionDelay := (Adjustment.lastDelay? adjustments).getD config.actionDelay
        requestTimeout := match Adjustment.lastTimeout? adjustments with
          | none => config.requestTimeout
          | some timeout => (config.withRequestTimeout timeout).requestTimeout } := by
  induction adjustments using List.reverseRecOn with
  | nil => rfl
  | append_singleton init last ih =>
    rw [List.foldl_append, ih]
    cases last with
    | actionDelay delay =>
      simp [adjust, withActionDelay, Adjustment.lastDelay?, Adjustment.lastTimeout?,
        Adjustment.delay?, Adjustment.timeout?]
    | requestTimeout timeout =>
      simp [adjust, withRequestTimeout, Adjustment.lastDelay?, Adjustment.lastTimeout?,
        Adjustment.delay?, Adjustment.timeout?]

theorem baseUrl_build (base : Text) (adjustments : List Adjustment) :
    (build base adjustments).baseUrl = (new base).baseUrl := by
  rw [build, foldl_adjust]

theorem actionDelay_build (base : Text) (adjustments : List Adjustment) :
    (build base adjustments).actionDelay =
      (Adjustment.lastDelay? adjustments).getD (.ofMilliseconds defaultDelayMs) := by
  rw [build, foldl_adjust]
  rfl

theorem requestTimeout_build (base : Text) (adjustments : List Adjustment) (limit : Duration) :
    (build base adjustments).requestTimeout = some limit ↔
      Adjustment.lastTimeout? adjustments = some (some limit) ∧ limit.nanoseconds ≠ 0 := by
  rw [build, foldl_adjust]
  cases Adjustment.lastTimeout? adjustments with
  | none => simp [new]
  | some timeout => simp only [requestTimeout_withRequestTimeout, Option.some.injEq]

theorem personUrl_build_eq_iff {a b : Text} {changes others : List Adjustment} :
    (build a changes).personUrl = (build b others).personUrl ↔ ∃ core j k,
      a = core ++ List.replicate j '/' ∧ b = core ++ List.replicate k '/' := by
  rw [personUrl, personUrl, List.append_left_inj, baseUrl_build, baseUrl_build, baseUrl_eq_iff]

/-- Only the last adjustment of each kind has a part in the client. -/
theorem build_congr (base : Text) {changes others : List Adjustment}
    (hdelay : Adjustment.lastDelay? changes = Adjustment.lastDelay? others)
    (htimeout : Adjustment.lastTimeout? changes = Adjustment.lastTimeout? others) :
    build base changes = build base others := by
  rw [build, build, foldl_adjust, foldl_adjust, hdelay, htimeout]

theorem lastTimeout?_of_none_after {timeout : Option Duration} {after : List Adjustment}
    (hafter : after.filterMap Adjustment.timeout? = []) (before : List Adjustment) :
    Adjustment.lastTimeout? (before ++ .requestTimeout timeout :: after) = some timeout := by
  simp [Adjustment.lastTimeout?, Adjustment.timeout?, hafter]

/-- **A client is in normal form, however it was put together.** Its address is the longest
beginning of the given one that does not end with a slash; slashes more or less at the end of what is
given make no difference, giving the address of a client makes the same one, and no adjustment
touches it. The resource is one slash further, and two clients have it at the same place just if the
given addresses differ in the slashes at their ends alone. The wait is the last one that was asked
for, or three seconds; the limit is the last one that was asked for, or none, and a limit of zero is
none too and takes an earlier one away. So adjustments of the two kinds may be made in any order. -/
theorem build_exact :
    (∀ base changes, let config := build base changes
      LongestBare base config.baseUrl ∧
      config.baseUrl = (new base).baseUrl ∧
      new config.baseUrl = new base ∧
      config.personUrl = config.baseUrl ++ "/person".toList ∧
      (¬ "//person".toList <:+ config.personUrl) ∧
      config.actionDelay = (Adjustment.lastDelay? changes).getD (.ofMilliseconds 3000) ∧
      ∀ limit, config.requestTimeout = some limit ↔
        Adjustment.lastTimeout? changes = some (some limit) ∧ limit.nanoseconds ≠ 0) ∧
    (∀ base k, new (base ++ List.replicate k '/') = new base) ∧
    (∀ a b changes others, (build a changes).personUrl = (build b others).personUrl ↔
      ∃ core j k, a = core ++ List.replicate j '/' ∧ b = core ++ List.replicate k '/') ∧
    (∀ base changes others, Adjustment.lastDelay? changes = Adjustment.lastDelay? others →
      Adjustment.lastTimeout? changes = Adjustment.lastTimeout? others →
      build base changes = build base others) ∧
    ∀ base before timeout after, (∀ limit, timeout = some limit → limit.nanoseconds = 0) →
      after.filterMap Adjustment.timeout? = [] →
      (build base (before ++ .requestTimeout timeout :: after)).requestTimeout = none := by
  refine ⟨fun base changes => ?_, new_append_slashes, fun _ _ _ _ => personUrl_build_eq_iff,
    fun base _ _ => build_congr base, fun base before timeout after hzero hafter => ?_⟩
  · have hbase := baseUrl_build base changes
    have hbare : (build base changes).baseUrl.getLast? ≠ some '/' := hbase ▸ getLast_baseUrl base
    exact ⟨hbase ▸ longestBare_baseUrl base, hbase, hbase ▸ new_baseUrl base, rfl,
      not_doubled_slash hbare, actionDelay_build base changes, requestTimeout_build base changes⟩
  · refine Option.eq_none_iff_forall_ne_some.2 fun limit hlimit => ?_
    rw [requestTimeout_build, lastTimeout?_of_none_after hafter] at hlimit
    exact hlimit.2 (hzero limit (Option.some.inj hlimit.1))

/-- Adjustments of the two kinds change places, and a zero takes an earlier limit away whatever
becomes of the wait. -/
theorem build_exact_cleared :
    let base := "http://a//".toList
    let early : Adjustment := .requestTimeout (some ⟨5⟩)
    let late : Adjustment := .requestTimeout (some ⟨0⟩)
    let wait : Adjustment := .actionDelay ⟨7⟩
    build base [wait, early] = build base [early, wait] ∧
      (build base ([early] ++ late :: [wait])).requestTimeout = none := by
  intro base early late wait
  obtain ⟨-, -, -, hcongr, hcleared⟩ := build_exact
  refine ⟨hcongr base _ _ (by decide) (by decide), hcleared base [early] (some ⟨0⟩) [wait] ?_ rfl⟩
  intro limit hlimit
  cases hlimit
  rfl

end ClientConfig
end PersonGate
