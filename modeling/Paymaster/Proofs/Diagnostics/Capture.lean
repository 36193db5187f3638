import Mathlib.Data.List.DropRight
import Mathlib.Data.List.Induction
import Paymaster.Diagnostics.LogRun
/-!
# What a logger has captured

The steps of a run tell which entries it captures: those that pass the gate in force
while a capture is on. A logger keeps the latest of them, and a change of its
settings never touches what it holds; only a clear does.
-/
namespace Paymaster

/-- The settings of a run that decide on captures, whether a capture is on apart from its capacity. -/
structure CaptureSettings where
  level : Level := .info
  categories : CategorySet := .none
  enabled : Bool := false
  capacity : Nat := 0
  clock : Instant := .epoch

namespace CaptureSettings

/-- The settings after a step. To ask for no capacity ends the capture and leaves the capacity. -/
def after (settings : CaptureSettings) : LogStep → CaptureSettings
  | .configure config => { settings with level := config.level, categories := config.categories }
  | .setCategories categories => { settings with categories }
  | .enableCapture capacity =>
    if capacity = 0 then { settings with enabled := false }
    else { settings with enabled := true, capacity }
  | .disableCapture => { settings with enabled := false }
  | .setClock clock => { settings with clock }
  | _ => settings

/-- The entry that a step has to capture: that of a message which passes its gate during a capture. -/
def offered? (settings : CaptureSettings) : LogStep → Option LogEntry
  | .log call =>
    if settings.enabled ∧ call.level.rank ≤ settings.level.rank then
      some { call with time := settings.clock.milliseconds }
    else none
  | .logIn category file line text =>
    if settings.enabled ∧ Level.debug.rank ≤ settings.level.rank ∧
        settings.categories.contains category then
      some ⟨⟨.debug, category.name, file, line, text⟩, settings.clock.milliseconds⟩
    else none
  | _ => none

private theorem enabled_of_offered {settings : CaptureSettings} {step : LogStep} {entry : LogEntry}
    (h : settings.offered? step = some entry) : settings.enabled := by
  cases step with
  | log call =>
    rw [offered?] at h
    split at h
    · next hpasses => exact hpasses.1
    · cases h
  | logIn category file line text =>
    rw [offered?] at h
    split at h
    · next hpasses => exact hpasses.1
    · cases h
  | _ => cases h

private theorem ne_clear_of_offered {settings : CaptureSettings} {step : LogStep} {entry : LogEntry}
    (h : settings.offered? step = some entry) : step ≠ .clear := by
  rintro rfl
  cases h

end CaptureSettings

/-- The settings of a run and the entries captured since the last clear, the oldest first, each with
the capacity at its capture. -/
structure CaptureHistory where
  settings : CaptureSettings := {}
  captured : List (LogEntry × Nat) := []

namespace CaptureHistory

/-- What is left of the captured entries at a step. -/
def kept (history : CaptureHistory) : LogStep → List (LogEntry × Nat)
  | .clear => []
  | _ => history.captured

def after (history : CaptureHistory) (step : LogStep) : CaptureHistory where
  settings := history.settings.after step
  captured := history.kept step ++
    ((history.settings.offered? step).map fun entry => (entry, history.settings.capacity)).toList

def ofSteps (steps : List LogStep) : CaptureHistory :=
  steps.foldl after {}

def entries (history : CaptureHistory) : List LogEntry :=
  history.captured.map Prod.fst

def largestCapacity (history : CaptureHistory) : Nat :=
  (history.captured.map Prod.snd).foldr max 0

variable {history : CaptureHistory} {step : LogStep}

private theorem kept_of_ne_clear (h : step ≠ .clear) : history.kept step = history.captured := by
  cases step with
  | clear => exact absurd rfl h
  | _ => rfl

private theorem captured_after_of_offered {entry : LogEntry}
    (h : history.settings.offered? step = some entry) :
    (history.after step).captured = history.captured ++ [(entry, history.settings.capacity)] := by
  rw [after, kept_of_ne_clear (CaptureSettings.ne_clear_of_offered h), h]
  rfl

private theorem captured_after_of_none (h : history.settings.offered? step = none)
    (hclear : step ≠ .clear) :
    (history.after step).captured = history.captured := by
  rw [after, kept_of_ne_clear hclear, h]
  exact List.append_nil _

private theorem ofSteps_concat (steps : List LogStep) (step : LogStep) :
    ofSteps (steps ++ [step]) = (ofSteps steps).after step :=
  List.foldl_concat after {} step steps

private theorem entries_after_of_offered {entry : LogEntry}
    (h : history.settings.offered? step = some entry) :
    (history.after step).entries = history.entries ++ [entry] := by
  rw [entries, captured_after_of_offered h, List.map_append]
  rfl

private theorem entries_after_of_none (h : history.settings.offered? step = none)
    (hclear : step ≠ .clear) :
    (history.after step).entries = history.entries := by
  rw [entries, captured_after_of_none h hclear, entries]

private theorem largestCapacity_after_of_offered {entry : LogEntry}
    (h : history.settings.offered? step = some entry) :
    (history.after step).largestCapacity = max history.largestCapacity history.settings.capacity := by
  have hmax (capacities : List Nat) (last : Nat) :
      (capacities ++ [last]).foldr max 0 = max (capacities.foldr max 0) last := by
    induction capacities with
    | nil => exact Nat.max_comm last 0
    | cons first rest ih =>
      rw [List.cons_append, List.foldr_cons, List.foldr_cons, ih, Nat.max_assoc]
  rw [largestCapacity, captured_after_of_offered h, List.map_append]
  exact hmax _ _

private theorem largestCapacity_after_of_none (h : history.settings.offered? step = none)
    (hclear : step ≠ .clear) : (history.after step).largestCapacity = history.largestCapacity := by
  rw [largestCapacity, captured_after_of_none h hclear, largestCapacity]

end CaptureHistory

namespace Logger

/-- A logger stands at these settings; it has no capacity exactly while no capture is on. -/
structure StandsAt (logger : Logger) (settings : CaptureSettings) : Prop where
  gate : logger.gate = ⟨settings.level, settings.categories⟩
  capacity : logger.capacity = if settings.enabled then settings.capacity else 0
  positive : settings.enabled → settings.capacity ≠ 0
  clock : logger.clock = settings.clock

private theorem standsAt_fresh : fresh.StandsAt {} :=
  ⟨rfl, rfl, nofun, rfl⟩

/-- The logger that was offered an entry: it comes last, and as many stay as the capacity says. -/
def offer (logger : Logger) (capacity : Nat) : Option LogEntry → Logger
  | none => logger
  | some entry => { logger with buffer := (logger.buffer ++ [entry]).rtake capacity }

namespace StandsAt

variable {logger : Logger} {settings : CaptureSettings} (h : logger.StandsAt settings)

include h

private theorem offer (capacity : Nat) (entry : Option LogEntry) :
    (logger.offer capacity entry).StandsAt settings := by
  cases entry with
  | none => exact h
  | some entry => exact ⟨h.gate, h.capacity, h.positive, h.clock⟩

private theorem capture_eq_offer (entry : LogEntry) :
    logger.capture entry =
      logger.offer settings.capacity (if settings.enabled then some entry else none) := by
  by_cases henabled : settings.enabled
  · have hcapacity : logger.capacity = settings.capacity := by rw [h.capacity, if_pos henabled]
    have hpositive : logger.capacity ≠ 0 := hcapacity ▸ h.positive henabled
    rw [Logger.capture, if_neg hpositive, if_pos henabled, ← hcapacity]
    rfl
  · have hcapacity : logger.capacity = 0 := by rw [h.capacity, if_neg henabled]
    rw [Logger.capture, if_pos hcapacity, if_neg henabled]
    rfl

private theorem log_eq_offer (call : LogCall) :
    (logger.log call).1 = logger.offer settings.capacity (settings.offered? (.log call)) := by
  have hlevel : logger.gate.admitsLevel call.level =
      decide (call.level.rank ≤ settings.level.rank) := by
    rw [h.gate]
    rfl
  rw [Logger.log, hlevel, h.clock, CaptureSettings.offered?]
  by_cases hpasses : call.level.rank ≤ settings.level.rank
  · rw [if_pos (decide_eq_true hpasses)]
    simp only [hpasses, and_true]
    exact h.capture_eq_offer _
  · simp [hpasses, Logger.offer]

private theorem logIn_eq_offer (category : Category) (file : String) (line : UInt32) (text : String) :
    (logger.logIn category file line text).1 =
      logger.offer settings.capacity (settings.offered? (.logIn category file line text)) := by
  have hcategory : logger.gate.admitsCategory category =
      (decide (Level.debug.rank ≤ settings.level.rank) && settings.categories.contains category) := by
    rw [h.gate]
    rfl
  rw [Logger.logIn, hcategory, CaptureSettings.offered?]
  by_cases hlevel : Level.debug.rank ≤ settings.level.rank
  · by_cases hcontains : settings.categories.contains category
    · have hlog := h.log_eq_offer ⟨.debug, category.name, file, line, text⟩
      rw [CaptureSettings.offered?] at hlog
      simpa [hlevel, hcontains] using hlog
    · simp [hcontains, Logger.offer]
  · simp [hlevel, Logger.offer]

theorem step (step : LogStep) : (logger.step step).1.StandsAt (settings.after step) := by
  have hsame : logger.StandsAt settings := h
  obtain ⟨hgate, hcapacity, hpositive, hclock⟩ := h
  cases step with
  | configure config => exact ⟨rfl, hcapacity, hpositive, hclock⟩
  | setCategories categories =>
    refine ⟨?_, hcapacity, hpositive, hclock⟩
    change Gate.mk logger.gate.threshold categories = ⟨settings.level, categories⟩
    rw [hgate]
  | enableCapture capacity =>
    by_cases hzero : capacity = 0
    · rw [CaptureSettings.after, if_pos hzero]
      exact ⟨hgate, hzero, nofun, hclock⟩
    · rw [CaptureSettings.after, if_neg hzero]
      exact ⟨hgate, rfl, fun _ => hzero, hclock⟩
  | disableCapture => exact ⟨hgate, rfl, nofun, hclock⟩
  | setClock clock => exact ⟨hgate, hcapacity, hpositive, rfl⟩
  | log call =>
    change (logger.log call).1.StandsAt settings
    rw [hsame.log_eq_offer]
    exact hsame.offer _ _
  | logIn category file line text =>
    change (logger.logIn category file line text).1.StandsAt settings
    rw [hsame.logIn_eq_offer]
    exact hsame.offer _ _
  | _ => exact ⟨hgate, hcapacity, hpositive, hclock⟩

/-- All but a clear only offer an entry to the buffer, if they have one. -/
theorem buffer_step {step : LogStep} (hclear : step ≠ .clear) :
    (logger.step step).1.buffer =
      (logger.offer settings.capacity (settings.offered? step)).buffer := by
  cases step with
  | clear => exact absurd rfl hclear
  | log call => exact congrArg buffer (h.log_eq_offer call)
  | logIn category file line text =>
    exact congrArg buffer (h.logIn_eq_offer category file line text)
  | _ => rfl

private theorem buffer_step_of_offered {step : LogStep} {entry : LogEntry}
    (hentry : settings.offered? step = some entry) :
    (logger.step step).1.buffer = (logger.buffer ++ [entry]).rtake settings.capacity := by
  rw [h.buffer_step (CaptureSettings.ne_clear_of_offered hentry), hentry]
  rfl

private theorem buffer_step_of_none {step : LogStep} (hentry : settings.offered? step = none)
    (hclear : step ≠ .clear) : (logger.step step).1.buffer = logger.buffer := by
  rw [h.buffer_step hclear, hentry]
  rfl

end StandsAt

private theorem length_rtake_le {α : Type} (l : List α) (count : Nat) :
    (l.rtake count).length ≤ count := by
  rw [List.rtake, List.length_drop]
  omega

private theorem rtake_min_length {α : Type} (l : List α) (count : Nat) :
    l.rtake (min count l.length) = l.rtake count := by
  have hdropped : l.length - min count l.length = l.length - count := by omega
  rw [List.rtake, List.rtake, hdropped]

private theorem getLast?_rtake_concat {α : Type} (l : List α) (a : α) {count : Nat} (h : count ≠ 0) :
    ((l ++ [a]).rtake count).getLast? = some a := by
  obtain ⟨before, rfl⟩ := Nat.exists_eq_succ_of_ne_zero h
  rw [Nat.succ_eq_add_one, List.rtake_concat_succ, List.getLast?_concat]

/-- What a logger holds is the end of what its run has captured, and never more than the largest
capacity at a capture. -/
structure Keeps (logger : Logger) (history : CaptureHistory) : Prop where
  settings : logger.StandsAt history.settings
  suffix : logger.buffer <:+ history.entries
  length : logger.buffer.length ≤ history.largestCapacity

theorem Keeps.step {logger : Logger} {history : CaptureHistory} (h : logger.Keeps history)
    (step : LogStep) : (logger.step step).1.Keeps (history.after step) := by
  cases hentry : history.settings.offered? step with
  | some entry =>
    have hbuffer := h.settings.buffer_step_of_offered hentry
    refine ⟨h.settings.step step, ?_, ?_⟩
    · rw [hbuffer, CaptureHistory.entries_after_of_offered hentry]
      exact (List.drop_suffix _ _).trans (List.suffix_append_self_iff.mpr h.suffix)
    · rw [hbuffer, CaptureHistory.largestCapacity_after_of_offered hentry]
      exact Nat.le_trans (length_rtake_le _ _) (Nat.le_max_right _ _)
  | none =>
    by_cases hclear : step = .clear
    · subst hclear
      exact ⟨h.settings.step .clear, List.nil_suffix, Nat.zero_le _⟩
    · have hbuffer := h.settings.buffer_step_of_none hentry hclear
      refine ⟨h.settings.step step, ?_, ?_⟩
      · rw [hbuffer, CaptureHistory.entries_after_of_none hentry hclear]
        exact h.suffix
      · rw [hbuffer, CaptureHistory.largestCapacity_after_of_none hentry hclear]
        exact h.length

private theorem run_concat (logger : Logger) (steps : List LogStep) (step : LogStep) :
    logger.run (steps ++ [step]) = ((logger.run steps).step step).1 :=
  List.foldl_concat _ logger step steps

theorem keeps_run (steps : List LogStep) : (fresh.run steps).Keeps (.ofSteps steps) := by
  induction steps using List.reverseRecOn with
  | nil => exact ⟨standsAt_fresh, List.suffix_rfl, Nat.le_refl 0⟩
  | append_singleton steps step ih =>
    rw [run_concat, CaptureHistory.ofSteps_concat]
    exact ih.step step

private theorem snapshot_eq_rtake (logger : Logger) (limit : Nat) :
    logger.snapshot limit = logger.buffer.rtake (min limit logger.buffer.length) := by
  rw [rtake_min_length]
  rfl

/-- Whatever steps a fresh logger is taken through, its buffer is the end of what they captured since
the last clear, and never longer than the largest capacity at one of these captures. An entry to be
captured comes last and pushes out the oldest ones beyond the capacity; every other step but a clear
leaves the buffer alone, and a snapshot shows its end. -/
theorem buffer_holds_latest (steps : List LogStep) :
    let logger := fresh.run steps
    let history := CaptureHistory.ofSteps steps
    logger.buffer <:+ history.entries ∧
    logger.buffer.length ≤ history.largestCapacity ∧
    (∀ step entry, history.settings.offered? step = some entry →
      let next := (logger.step step).1
      (CaptureHistory.ofSteps (steps ++ [step])).entries = history.entries ++ [entry] ∧
      next.buffer = (logger.buffer ++ [entry]).rtake
        (min (logger.buffer.length + 1) history.settings.capacity) ∧
      next.buffer.getLast? = some entry) ∧
    (∀ step, history.settings.offered? step = none → step ≠ .clear →
      (logger.step step).1.buffer = logger.buffer) ∧
    (logger.step .clear).1.buffer = [] ∧
    ∀ limit, (logger.step (.snapshot limit)).2.reply =
      .entries (logger.buffer.rtake (min limit logger.buffer.length)) := by
  intro logger history
  have hkeeps : logger.Keeps history := keeps_run steps
  refine ⟨hkeeps.suffix, hkeeps.length, ?_, ?_, rfl, ?_⟩
  · intro step entry hentry next
    have hbuffer : next.buffer = _ := hkeeps.settings.buffer_step_of_offered hentry
    refine ⟨?_, ?_, ?_⟩
    · rw [CaptureHistory.ofSteps_concat]
      exact CaptureHistory.entries_after_of_offered hentry
    · have hlength : (logger.buffer ++ [entry]).length = logger.buffer.length + 1 :=
        List.length_append
      rw [hbuffer, ← hlength, Nat.min_comm, rtake_min_length]
    · rw [hbuffer]
      exact getLast?_rtake_concat _ _
        (hkeeps.settings.positive (CaptureSettings.enabled_of_offered hentry))
  · intro step hentry hclear
    exact hkeeps.settings.buffer_step_of_none hentry hclear
  · intro limit
    change LogReply.entries (logger.snapshot limit) = _
    rw [snapshot_eq_rtake]

/-- A smaller capacity leaves the buffer alone until the next capture. -/
example :
    let call (text : String) : LogCall := ⟨.info, "wallet", "", 0, text⟩
    let steps := [.enableCapture 3, .log (call "a"), .log (call "b"), .enableCapture 1]
    (fresh.run steps).buffer.map (fun entry => entry.text) = ["a", "b"] ∧
    (fresh.run (steps ++ [.log (call "c")])).buffer.map (fun entry => entry.text) = ["c"] := by
  decide

end Logger

end Paymaster
