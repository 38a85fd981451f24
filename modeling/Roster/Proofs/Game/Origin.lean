import Mathlib.Tactic.SimpRw
import Roster.Game.Source
import Roster.Proofs.Game.Reading
import Roster.Proofs.Text.Casing

/-!
# Where games come from

A game is loaded from a document that is already read, from a text, or from what stands at a path.
In each case there is at most one document, and at most one name for a game whose document has none.
The name after a file is blank exactly if the stem of the file is, underscores and hyphens included.
-/

namespace Roster.Game

variable {α : Type}

/-- Where a game comes from. The first two may give a name for a document that has none. -/
inductive Origin (α : Type) where
  | document (given : Option Text) (v : Json α)
  | text (given : Option Text) (s : Text)
  | file (path : Text) (state : FileState)

namespace Origin

/-- The name that an origin gives. -/
def given? : Origin α → Option Text
  | .document given _ | .text given _ => given
  | .file path _ => some (nameOfFile path)

/-- Whether an origin gives a name that is not empty, but blank: in the stem of a file, underscores
and hyphens are as good as blanks. -/
def GivesBlank : Origin α → Prop
  | .document given _ | .text given _ =>
    ∃ name ∈ given, name ≠ "" ∧ Text.isBlankText name = true
  | .file path _ =>
    let stem := fileStem (fileName path)
    stem ≠ "" ∧
      ∀ c ∈ stem.toList, c = .char '_' ∨ c = .char '-' ∨ c.satisfies Text.isBlank = true

variable [Numeral α]

/-- The game that is loaded from an origin, or what is wrong. -/
def load : Origin α → Loading α
  | .document given v => (read given v).loading
  | .text given s => ofText given s
  | .file path state => ofFile path state

/-- The document that an origin leads to. -/
def document? : Origin α → Option (Json α)
  | .document _ v => some v
  | .text _ s => (Json.ofText s).toOption
  | .file _ (.content bytes) => (Json.ofBytes bytes).toOption
  | .file _ _ => none

end Origin

/-! ### Names after files -/

/-- The name after a file is blank if its stem is, underscores and hyphens included. -/
theorem isBlankText_nameOfFile_iff (path : Text) :
    Text.isBlankText (nameOfFile path) = true ↔
      ∀ c ∈ (fileStem (fileName path)).toList,
        c = .char '_' ∨ c = .char '-' ∨ c.satisfies Text.isBlank = true := by
  have hblank : CodePoint.satisfies Text.isBlank (.char ' ') = true := by decide
  rw [nameOfFile, Text.isBlankText_title, Text.isBlankText, List.all_map, List.all_eq_true]
  refine forall₂_congr fun c _ => ?_
  by_cases hc : c = .char '_' ∨ c = .char '-'
  · refine iff_of_true ?_ (hc.imp_right .inl)
    simpa [hc] using hblank
  · obtain ⟨hunderscore, hhyphen⟩ := not_or.1 hc
    simp [hunderscore, hhyphen]

theorem nameOfFile_eq_empty_iff {path : Text} :
    nameOfFile path = "" ↔ fileStem (fileName path) = "" := by
  rw [nameOfFile, Text.title_eq_empty_iff]
  constructor
  · intro h
    exact Text.ext_toList (List.map_eq_nil_iff.1 (congrArg Text.toList h))
  · intro h
    rw [h]
    rfl

/-- What an origin gives is blank if the name that it gives is. -/
theorem Origin.givesBlank_iff {o : Origin α} :
    o.GivesBlank ↔ ∃ name ∈ o.given?, name ≠ "" ∧ Text.isBlankText name = true := by
  cases o with
  | document given v => exact Iff.rfl
  | text given s => exact Iff.rfl
  | file path state =>
    change _ ∧ _ ↔ ∃ name ∈ some (nameOfFile path), _
    simp only [Option.mem_some_iff, exists_eq_left', isBlankText_nameOfFile_iff, Ne,
      nameOfFile_eq_empty_iff]

/-! ### Documents -/

variable [Numeral α]

/-- A game is loaded from a document that is read to it. -/
theorem result_ofDocument_eq_ok_iff {given : Option Text} {d : Except Json.FileError (Json α)}
    {g : Game α} :
    (ofDocument given d).result = .ok g ↔ ∃ v, d = .ok v ∧ (read given v).result = .ok g := by
  cases d with
  | error error => simp [ofDocument]
  | ok v => simp [ofDocument, Reading.loading, mapError_eq_ok]

/-- A game that is loaded is read from the origin's document, with the name that the origin gives.
-/
theorem Origin.load_eq_ok_iff {o : Origin α} {g : Game α} :
    o.load.result = .ok g ↔ ∃ v, o.document? = some v ∧ (read o.given? v).result = .ok g := by
  have hfrom {given : Option Text} {d : Except Json.FileError (Json α)} :
      (ofDocument given d).result = .ok g ↔
        ∃ v, d.toOption = some v ∧ (read given v).result = .ok g := by
    simp_rw [result_ofDocument_eq_ok_iff, toOption_eq_some]
  have hnone {error : LoadError (Flaw α)} (h : o.load.result = .error error)
      (hd : o.document? = none) :
      o.load.result = .ok g ↔ ∃ v, o.document? = some v ∧ (read o.given? v).result = .ok g := by
    rw [h, hd]
    simp
  cases o with
  | document given v => exact hfrom (d := .ok v)
  | text given s => exact hfrom
  | file path state =>
    cases state with
    | content bytes => exact hfrom
    | missing => exact hnone rfl rfl
    | unreadable fault => cases fault <;> exact hnone rfl rfl

end Roster.Game
