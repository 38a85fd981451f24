import Roster.Command.Run
import Roster.Proofs.Analysis.Total
import Roster.Proofs.Game.Messages

/-!
# How a command ends

A command that finds its file tells of the game or says on one line what is wrong with it. What
breaks it off instead are numbers beyond the scalars, and options without a value.
-/

namespace Roster

/-! ### What is said of files -/

theorem Text.Utf8Fault.oneLine_message (f : Utf8Fault) : Roster.OneLine f.message := by
  obtain ⟨reason, byte, position, length⟩ := f
  have hreason : Roster.OneLine reason.text := by
    cases reason <;> decide +kernel
  have hhex : Roster.OneLine (String.ofList (hexDigits 2 byte.toNat)) :=
    (oneLine_ofList _).2 (newline_notMem_hexDigits 2 byte.toNat)
  unfold Utf8Fault.message
  dsimp only
  split
  · simp only [Roster.oneLine_append, oneLine_toString, oneLine_toString_nat, hreason, hhex,
      and_true]
    decide
  · simp only [Roster.oneLine_append, oneLine_toString, oneLine_toString_nat, hreason, and_true]
    decide

theorem Json.ReadError.oneLine_message (text : Text) (error : ReadError) :
    OneLine (error.message text) := by
  cases error with
  | malformed flaw position =>
    have hflaw : OneLine flaw.text := by
      cases flaw <;> decide +kernel
    unfold message
    dsimp only
    simp only [oneLine_append, oneLine_toString, oneLine_toString_nat, hflaw, true_and, and_true]
    decide
  | tooManyDigits count =>
    unfold message
    dsimp only
    simp only [oneLine_append, oneLine_toString, oneLine_toString_nat, and_true]
    decide
  | tooDeep bracket =>
    change OneLine bracket.tooDeepMessage
    cases bracket <;> decide +kernel

/-- Whether a text was read up to a flaw. -/
def Json.FileError.Malformed : FileError → Prop
  | .refused _ (.malformed _ _) => True
  | _ => False

theorem Json.FileError.oneLine_message {what : Text} {error : FileError} :
    (error.message what).OneLine ↔ (error.Malformed → what.OneLine) := by
  have hread := ReadError.oneLine_message
  cases error with
  | notText fault => simp [message, Malformed, fault.oneLine_message]
  | refused text error =>
    cases error with
    | malformed flaw position =>
      have hinvalid : OneLine "Invalid JSON in " := by decide
      have hcolon : OneLine ": " := by decide
      simp [message, Malformed, hread, hinvalid, hcolon]
    | _ => simp [message, Malformed, hread]

namespace Game

theorem oneLine_filePlace (path : Text) : (filePlace path).OneLine ↔ (fileName path).OneLine := by
  have hfile : OneLine "game file " := by decide
  simp [filePlace, hfile]

end Game

namespace Command

/-- A run that tells of the game, or on one line of an error. -/
def Run.Orderly (r : Run) : Prop :=
  r.ending = .success ∨ r.ending = .failure ∧
    ∃ told message, r.printed = told ++ [errorLine message] ∧ message.OneLine

/-- Whether a run is broken off by a document with a level too many. -/
def Run.TooDeep (r : Run) : Prop := ∃ bracket, r.ending = .aborted (.overrun (.depth bracket))

/-- A number that is too long is told on one line. -/
theorem orderly_tooLong (printed : List Text) (log : List LogLine) :
    Run.Orderly ⟨.failure, printed ++ [errorLine Decimal.wholeTooLong], log⟩ :=
  Or.inr ⟨rfl, printed, _, rfl, (Text.oneLine_ofString _).2 Decimal.oneLine_wholeTooLong⟩

theorem orderly_tell {r : Request Float} {g : Game Float} {a : Analyzer Float}
    (hteam : FailsOnlyWith (· = .typeTooLong) (a.team g).1) (scores : List (Score Float))
    (printed : List Text) (log : List LogLine) : (tell r g a scores printed log).Orderly := by
  have hreport : FailsOnlyWith (· = .typeTooLong) (teamReport r a g).1 := by
    unfold teamReport
    split
    · exact hteam.map some
    · exact failsOnlyWith_ok none
  unfold tell
  dsimp only
  split
  · exact orderly_tooLong _ log
  · cases h : (teamReport r a g).1 with
    | ok report => exact Or.inl rfl
    | error error =>
      obtain rfl := hreport error h
      exact orderly_tooLong _ _

/-- Whatever its settings are, a well-formed game is told of, or the id of a type is too long. -/
theorem orderly_analyze {r : Request Float} {g : Game Float} (hg : g.WellFormed)
    (printed : List Text) (log : List LogLine) : (analyze r g printed log).Orderly := by
  have ht := Potentials.scalarSettings?_written (g.settings.change r.settingsChange)
  have hscore := Analyzer.failsOnlyWith_score hg ht
  have hbox := Analyzer.failsOnlyWith_box hscore
  unfold analyze
  dsimp only
  cases h : (Analyzer.box _ g).1 with
  | ok scores => exact orderly_tell (Analyzer.failsOnlyWith_team hscore) scores _ _
  | error error =>
    obtain rfl := hbox error h
    exact orderly_tooLong _ _

theorem oneLine_errorLine (message : Text) : (errorLine message).OneLine ↔ message.OneLine := by
  have hfront : OneLine "❌ Error: " := by decide
  simp [errorLine, hfront]

section Refused

variable {r : Request Float} {error : LoadError (Game.Flaw Float)} {printed : List Text}
  {log : List LogLine}

/-- The error of a document that is refused is the last text that is printed. -/
theorem orderly_refused_iff (h : loadAbort? error = (Game.overrun? error).map .overrun) :
    (refused r error printed log).Orderly ↔
      Game.overrun? error = none ∧ (Game.loadMessage (Game.filePlace r.path) error).OneLine := by
  unfold refused
  rw [h]
  cases Game.overrun? error with
  | some cause => simp [Run.Orderly]
  | none =>
    simp only [Option.map_none, Run.Orderly, reduceCtorEq, false_or, true_and]
    constructor
    · rintro ⟨told, message, h, hone⟩
      obtain ⟨-, h⟩ := List.append_inj' h rfl
      rw [← oneLine_errorLine, List.singleton_inj.1 h, oneLine_errorLine]
      exact hone
    · intro h
      exact ⟨printed, _, rfl, h⟩

theorem tooDeep_refused_iff (h : loadAbort? error = (Game.overrun? error).map .overrun) :
    (refused r error printed log).TooDeep ↔
      ∃ bracket, Game.overrun? error = some (.depth bracket) := by
  unfold refused
  rw [h]
  cases Game.overrun? error with
  | some cause => simp [Run.TooDeep]
  | none => simp [Run.TooDeep]

end Refused

/-- What breaks a command off, or breaks the line on which its error is said: a huge number, an
option without a value where it counts, or the name of a file that is no text of one line. -/
inductive Trouble (r : Request Float) (bytes : List UInt8) : Prop where
  | huge {record : Game.Record Float} (hdocument : Json.ofBytes bytes = .ok (.object record))
    (h : Game.MeetsHuge record)
  | hollow {g : Game Float} (hgame : (Game.ofFile r.path (.content bytes)).result = .ok g)
    (h : (hollowAbort? r g).isSome)
  | name {error : Json.FileError} (herror : Json.ofBytes (α := Float) bytes = .error error)
    (hmalformed : error.Malformed) (h : ¬ (fileName r.path).OneLine)

section Content

variable {r : Request Float} {bytes : List UInt8}

theorem result_ofFile_content (path : Text) (bytes : List UInt8) :
    (Game.ofFile path (.content bytes)).result =
      (Game.ofDocument (some (Game.nameOfFile path)) (Json.ofBytes (α := Float) bytes)).result :=
  rfl

theorem result_ofDocument_ok {α : Type} [Numeral α] (given : Option Text) (v : Json α) :
    (Game.ofDocument given (.ok v)).result = (Game.read given v).result.mapError .flawed :=
  rfl

theorem trouble_of_document_error {e : Json.FileError}
    (h : Json.ofBytes (α := Float) bytes = .error e) :
    Trouble r bytes ↔ e.Malformed ∧ ¬ (fileName r.path).OneLine := by
  constructor
  · intro ht
    cases ht with
    | huge hdocument => simp [h] at hdocument
    | hollow hgame =>
      rw [result_ofFile_content, h] at hgame
      cases hgame
    | name herror hmalformed hname =>
      rw [h] at herror
      cases herror
      exact ⟨hmalformed, hname⟩
  · rintro ⟨hmalformed, hname⟩
    exact .name h hmalformed hname

theorem trouble_of_document {v : Json Float} (h : Json.ofBytes bytes = .ok v) :
    Trouble r bytes ↔
      FailsWith Game.Flaw.Overruns (Game.read (some (Game.nameOfFile r.path)) v).result ∨
      ∃ g, (Game.read (some (Game.nameOfFile r.path)) v).result = .ok g ∧
        (hollowAbort? r g).isSome := by
  rw [Game.failsWith_read]
  constructor
  · intro ht
    cases ht with
    | huge hdocument hhuge =>
      rw [h] at hdocument
      cases hdocument
      exact Or.inl ⟨_, rfl, hhuge⟩
    | hollow hgame hhollow =>
      rw [result_ofFile_content, h, result_ofDocument_ok] at hgame
      cases hread : (Game.read (some (Game.nameOfFile r.path)) v).result with
      | error flaw =>
        rw [hread] at hgame
        cases hgame
      | ok g =>
        rw [hread] at hgame
        cases hgame
        exact Or.inr ⟨_, rfl, hhollow⟩
    | name herror => simp [h] at herror
  · rintro (⟨record, rfl, hhuge⟩ | ⟨g, hread, hhollow⟩)
    · exact .huge h hhuge
    · refine .hollow ?_ hhollow
      rw [result_ofFile_content, h, result_ofDocument_ok, hread]
      rfl

theorem run_eq_refused {error : LoadError (Game.Flaw Float)}
    (h : (Game.ofFile r.path (.content bytes)).result = .error error) :
    ∃ printed log, run r (.content bytes) = refused r error printed log := by
  unfold run
  simp only [FileState.sighted, h]
  exact ⟨_, _, rfl⟩

/-- The line on which a command tells what it loads. -/
def loadingLine (r : Request Float) : Text := "📄 Loading game: " ++ fileName r.path

theorem run_eq_analyze {g : Game Float}
    (h : (Game.ofFile r.path (.content bytes)).result = .ok g) :
    ∃ log, run r (.content bytes) =
      match hollowAbort? r g with
      | some abort => ⟨.aborted abort, [loadingLine r], log⟩
      | none => analyze r g [loadingLine r] log := by
  unfold run
  simp only [FileState.sighted, h]
  exact ⟨_, rfl⟩

theorem not_tooDeep_hollowAbort {g : Game Float} {abort : Abort}
    (h : hollowAbort? r g = some abort) {bracket : Json.Bracket} :
    abort ≠ .overrun (.depth bracket) := by
  unfold hollowAbort? at h
  split_ifs at h
  · cases h
    simp
  · cases h
    simp

theorem run_content (r : Request Float) (bytes : List UInt8) :
    (run r (.content bytes)).Orderly ∨ (run r (.content bytes)).TooDeep ↔ ¬ Trouble r bytes := by
  cases hdocument : Json.ofBytes (α := Float) bytes with
  | error e =>
    have hresult : (Game.ofFile r.path (.content bytes)).result =
        .error (.document e : LoadError (Game.Flaw Float)) := by
      rw [result_ofFile_content, hdocument]
      rfl
    obtain ⟨printed, log, hrun⟩ := run_eq_refused hresult
    have hmessage : (Game.loadMessage (α := Float) (Game.filePlace r.path) (.document e)).OneLine ↔
        (e.Malformed → (fileName r.path).OneLine) := by
      rw [← Game.oneLine_filePlace]
      exact Json.FileError.oneLine_message
    rw [hrun, orderly_refused_iff rfl, tooDeep_refused_iff rfl, hmessage,
      trouble_of_document_error hdocument]
    cases e with
    | notText fault => simp [Game.overrun?, Json.FileError.Malformed]
    | refused text error => cases error <;> simp [Game.overrun?, Json.FileError.Malformed]
  | ok v =>
    rw [trouble_of_document hdocument]
    cases hread : (Game.read (some (Game.nameOfFile r.path)) v).result with
    | error flaw =>
      have hresult : (Game.ofFile r.path (.content bytes)).result = .error (.flawed flaw) := by
        rw [result_ofFile_content, hdocument, result_ofDocument_ok, hread]
        rfl
      obtain ⟨printed, log, hrun⟩ := run_eq_refused hresult
      have hmessage : (Game.loadMessage (Game.filePlace r.path) (.flawed flaw)).OneLine :=
        (Text.oneLine_ofString _).2 (Game.oneLine_message (Game.plain_read _ v flaw hread))
      rw [hrun, orderly_refused_iff rfl, tooDeep_refused_iff rfl, failsWith_error]
      simp only [hmessage, and_true, reduceCtorEq, false_and, exists_false, or_false]
      change flaw.overrun? = none ∨ (∃ bracket, flaw.overrun? = some (.depth bracket)) ↔
        ¬ flaw.overrun? = some .number
      cases flaw.overrun? with
      | none => simp
      | some cause => cases cause <;> simp
    | ok g =>
      have hresult : (Game.ofFile r.path (.content bytes)).result = .ok g := by
        rw [result_ofFile_content, hdocument, result_ofDocument_ok, hread]
        rfl
      obtain ⟨log, hrun⟩ := run_eq_analyze hresult
      rw [hrun]
      cases hhollow : hollowAbort? r g with
      | some abort =>
        simp [hhollow, Run.Orderly, Run.TooDeep, not_tooDeep_hollowAbort hhollow]
      | none =>
        have := orderly_analyze (r := r) (Game.wellFormed_of_read hread) [loadingLine r] log
        simp [hhollow, this]

end Content

/-- A whole number is huge if its double would round to infinity. -/
theorem huge_iff {v : Json Float} :
    v.Huge ↔ ∃ n : Int, v = .number (.whole n) ∧ 2 ^ 1024 - 2 ^ 970 ≤ n.natAbs := by
  have hlast : Double.lastHalf 970 = 2 ^ 1024 - 2 ^ 970 := by decide +kernel
  unfold Json.Huge
  rw [← hlast]
  simp only [Double.finite_ofInt_iff, Nat.not_lt]

/-- Settings and games give a result or a flaw of their own exactly if they meet no huge number, and
a command tells of the game or says on one line what is wrong with its file exactly if it is in no
trouble, depth aside. -/
theorem orderly_iff (v : Json Float) (given : Option Text) (r : Request Float)
    (bytes : List UInt8) :
    (v.Huge ↔ ∃ n : Int, v = .number (.whole n) ∧ 2 ^ 1024 - 2 ^ 970 ≤ n.natAbs) ∧
    ((∃ s, Settings.ofJson v = .ok s) ∨
        (∃ flaw, Settings.ofJson v = .error flaw ∧ ¬ flaw.Overruns) ↔
      ¬ ∃ members, v = .object members ∧ Settings.MeetsHuge members) ∧
    ((∃ g, (Game.read given v).result = .ok g) ∨
        (∃ flaw, (Game.read given v).result = .error flaw ∧ ¬ flaw.Overruns) ↔
      ¬ ∃ record, v = .object record ∧ Game.MeetsHuge record) ∧
    ((run r (.content bytes)).Orderly ∨ (run r (.content bytes)).TooDeep ↔ ¬ Trouble r bytes) := by
  refine ⟨huge_iff, ?_, ?_, run_content r bytes⟩
  · rw [← not_failsWith_iff, Settings.failsWith_ofJson]
  · rw [← not_failsWith_iff, Game.failsWith_read]

/-- Settings with a huge crit damage are told no flaw of theirs. -/
theorem settings_overrun :
    ¬ ∀ v : Json Float, (∃ s, Settings.ofJson v = .ok s) ∨
      ∃ flaw, Settings.ofJson v = .error flaw ∧ ¬ flaw.Overruns := by
  intro h
  have hhuge : (Json.number (.whole (10 ^ 400)) : Json Float).Huge :=
    huge_iff.2 ⟨10 ^ 400, rfl, by decide +kernel⟩
  have hv := h (.record [(Settings.critDamageKey, .number (.whole (10 ^ 400)))])
  rw [← not_failsWith_iff, Settings.failsWith_ofJson] at hv
  exact hv ⟨_, rfl, ⟨_, rfl⟩, Or.inl ⟨_, rfl, hhuge⟩⟩

end Command

end Roster
