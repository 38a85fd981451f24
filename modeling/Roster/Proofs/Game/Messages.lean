import Roster.Game.Source
import Roster.Proofs.Game.Overrun
import Roster.Proofs.Text.OneLine

/-!
# What is said of flaws

Whatever is wrong with a document is said on one line, whatever the document holds.
-/

namespace Roster

namespace Settings

/-- A flaw that names a member by a word of one line. -/
def Flaw.Plain {α : Type} : Flaw α → Prop
  | .notNumber key _ | .notAmount key _ | .notSwitch key _ => OneLine key
  | _ => True

theorem oneLine_message {flaw : Flaw Float} (h : flaw.Plain) : OneLine flaw.message := by
  have hk := Json.oneLine_kind (α := Float)
  unfold Flaw.message
  cases flaw with
  | beyondScalars => decide
  | notNumber key v | notAmount key v | notSwitch key v =>
    have hkey : OneLine key := h
    refine Json.oneLine_diagnostic ?_ v
    simp only [oneLine_append, oneLine_toString, hkey, true_and]
    decide
  | blankPreset v => exact Json.oneLine_diagnostic (by decide) v
  | notObject v =>
    dsimp only
    simp only [oneLine_append, oneLine_toString, hk, and_true]
    decide

variable {α : Type}

theorem plain_readPreset (v : Json α) : FailsOnlyWith Flaw.Plain (readPreset v) := by
  unfold readPreset
  split
  · dsimp only
    split <;> simp [Flaw.Plain]
  · simp [Flaw.Plain]

theorem plain_readSwitch {key : String} (hkey : OneLine key) (v : Json α) :
    FailsOnlyWith Flaw.Plain (readSwitch key v) := by
  unfold readSwitch
  repeat' split
  all_goals simp [Flaw.Plain, hkey]

theorem plain_readMember {β : Type} {members : Json.Members α} {key : String} {absent : β}
    {reader : Json α → Except (Flaw α) β} (h : ∀ v, FailsOnlyWith Flaw.Plain (reader v)) :
    FailsOnlyWith Flaw.Plain (readMember members key absent reader) := by
  unfold readMember
  split
  · simp
  · exact h _

variable [Scalar α]

theorem plain_readAmount {key : String} (hkey : OneLine key) (v : Json α) :
    FailsOnlyWith Flaw.Plain (readAmount key v) := by
  unfold readAmount
  split <;> simp [Flaw.Plain, hkey]

theorem plain_ofJson (v : Json α) : FailsOnlyWith Flaw.Plain (ofJson v) := by
  unfold ofJson
  split
  · simp
  · refine .bind (plain_readMember plain_readPreset) fun _ => ?_
    refine .bind (plain_readMember (plain_readAmount (by decide))) fun _ => ?_
    refine .bind (plain_readMember fun v => ?_) fun _ => ?_
    · split
      · simp
      · exact (plain_readAmount (by decide) _).map some
    · refine .bind (plain_readMember (plain_readSwitch (by decide))) fun _ => ?_
      exact .bind (plain_readMember (plain_readSwitch (by decide))) fun _ => failsOnlyWith_pure _
  · simp [Flaw.Plain]

end Settings

namespace Game

/-- A flaw that names its place and its field by words of one line. -/
def Flaw.Plain {α : Type} : Flaw α → Prop
  | .missingSection key | .notList key => OneLine key
  | .notRecord site | .statsNotRecord site | .missingName site | .tagsNotList site =>
    OneLine site.list
  | .missingField site key | .notWhole site key _ | .notNumber site key _ | .notAmount site key _ =>
    OneLine site.list ∧ OneLine key
  | .settings flaw => flaw.Plain
  | _ => True

theorem oneLine_text {site : Site} (h : OneLine site.list) : OneLine site.text := by
  unfold Site.text
  simp only [oneLine_append, oneLine_toString, oneLine_toString_nat, h, true_and, and_true]
  decide

theorem oneLine_message {flaw : Flaw Float} (h : flaw.Plain) : OneLine flaw.message := by
  unfold Flaw.message
  cases flaw with
  | missingSection key | notList key =>
    have hkey : OneLine key := h
    dsimp only
    simp only [oneLine_append, oneLine_toString, hkey, and_true]
    decide
  | notRecord site | statsNotRecord site | missingName site | tagsNotList site =>
    have hsite := oneLine_text h
    dsimp only
    simp only [oneLine_append, oneLine_toString, hsite, true_and]
    decide
  | missingField site key =>
    have hsite := oneLine_text h.1
    have hkey := h.2
    dsimp only
    simp only [oneLine_append, oneLine_toString, hsite, hkey, true_and, and_true]
    decide
  | notWhole site key v | notNumber site key v | notAmount site key v =>
    have hsite := oneLine_text h.1
    have hkey := h.2
    refine Json.oneLine_diagnostic ?_ v
    simp only [oneLine_append, oneLine_toString, hsite, hkey, true_and]
    decide
  | settings flaw => exact Settings.oneLine_message h
  | tooDeep bracket => cases bracket <;> decide
  | tagTooLong => exact Decimal.oneLine_wholeTooLong
  | teamTooLong length =>
    dsimp only
    simp only [oneLine_append, oneLine_toString, oneLine_toString_nat, and_true]
    decide
  | notSlot index v =>
    refine Json.oneLine_diagnostic ?_ v
    simp only [oneLine_append, oneLine_toString, oneLine_toString_nat, and_true]
    decide
  | _ =>
    dsimp only
    decide

section Fields

variable {α : Type} {site : Site} (hsite : OneLine site.list) {key : String} (hkey : OneLine key)
  (r : Record α) (v : Json α)

include hsite

theorem plain_asRecord : FailsOnlyWith Flaw.Plain (asRecord site v) := by
  unfold asRecord
  split <;> simp [Flaw.Plain, hsite]

theorem plain_nameField : FailsOnlyWith Flaw.Plain (nameField site r) := by
  unfold nameField
  split <;> simp [Flaw.Plain, hsite]

theorem plain_statsRecord : FailsOnlyWith Flaw.Plain (statsRecord site r) := by
  unfold statsRecord
  split <;> simp [Flaw.Plain, hsite]

theorem plain_tagsField [Numeral α] : FailsOnlyWith Flaw.Plain (tagsField site r) := by
  unfold tagsField
  split
  · simp
  · refine .mapError fun bracket _ => ?_
    exact trivial
  · split <;> simp [Flaw.Plain]
  · simp [Flaw.Plain, hsite]

include hkey

theorem plain_wholeField? : FailsOnlyWith Flaw.Plain (wholeField? site key r) := by
  unfold wholeField?
  split <;> simp [Flaw.Plain, hsite, hkey]

theorem plain_wholeField : FailsOnlyWith Flaw.Plain (wholeField site key r) := by
  refine .bind (plain_wholeField? hsite hkey r) fun n => ?_
  cases n <;> simp [Flaw.Plain, hsite, hkey]

theorem plain_amountField [Numeral α] : FailsOnlyWith Flaw.Plain (amountField site key r) := by
  unfold amountField
  dsimp only
  split <;> simp [Flaw.Plain, hsite, hkey]

end Fields

theorem oneLine_key (stat : Stat) : OneLine stat.key := by
  cases stat <;> decide

section Records

variable {α : Type} {site : Site} (hsite : OneLine site.list) (v : Json α)
include hsite

theorem plain_readBoxEntry : FailsOnlyWith Flaw.Plain (readBoxEntry site v) := by
  refine .bind (plain_asRecord hsite v) fun r => ?_
  refine .bind (plain_wholeField hsite (by decide) r) fun _ => ?_
  refine .bind (plain_wholeField hsite (by decide) r) fun _ => ?_
  refine .bind (plain_wholeField? hsite (by decide) r) fun _ => ?_
  exact .bind (plain_wholeField? hsite (by decide) r) fun _ => failsOnlyWith_pure _

variable [Numeral α]

theorem plain_readType : FailsOnlyWith Flaw.Plain (readType site v) := by
  refine .bind (plain_asRecord hsite v) fun r => ?_
  refine .bind (plain_wholeField hsite (by decide) r) fun _ => ?_
  exact .bind (plain_nameField hsite r) fun _ => failsOnlyWith_pure _

theorem plain_readChartRow : FailsOnlyWith Flaw.Plain (readChartRow site v) := by
  refine .bind (plain_asRecord hsite v) fun r => ?_
  refine .bind (plain_wholeField hsite (by decide) r) fun _ => ?_
  refine .bind (plain_wholeField hsite (by decide) r) fun _ => ?_
  exact .bind (plain_amountField hsite (by decide) r) fun _ => failsOnlyWith_pure _

theorem plain_readStats (r : Record α) : FailsOnlyWith Flaw.Plain (readStats site r) := by
  refine .bind (plain_statsRecord hsite r) fun source => ?_
  refine .ofFnM fun stat => ?_
  exact (plain_amountField hsite (oneLine_key stat) source).map Prod.fst

theorem plain_readSpecies : FailsOnlyWith Flaw.Plain (readSpecies site v) := by
  refine .bind (plain_asRecord hsite v) fun r => ?_
  refine .bind (plain_wholeField hsite (by decide) r) fun _ => ?_
  refine .bind (plain_nameField hsite r) fun _ => ?_
  refine .bind (plain_wholeField hsite (by decide) r) fun _ => ?_
  refine .bind (plain_wholeField? hsite (by decide) r) fun _ => ?_
  refine .bind (plain_readStats hsite r) fun _ => ?_
  refine .bind (plain_wholeField? hsite (by decide) r) fun _ => ?_
  exact .bind (plain_tagsField hsite r) fun _ => failsOnlyWith_pure _

theorem plain_readGear : FailsOnlyWith Flaw.Plain (readGear site v) := by
  refine .bind (plain_asRecord hsite v) fun r => ?_
  refine .bind (plain_wholeField hsite (by decide) r) fun _ => ?_
  refine .bind (plain_nameField hsite r) fun _ => ?_
  exact .bind (plain_tagsField hsite r) fun _ => failsOnlyWith_pure _

theorem plain_readChange : FailsOnlyWith Flaw.Plain (readChange site v) := by
  refine .bind (plain_asRecord hsite v) fun r => ?_
  refine .bind (.ofFnM fun stat => ?_) fun _ => ?_
  · split
    · simp
    · exact (plain_amountField hsite (oneLine_key stat) r).map _
  · refine .bind (plain_wholeField hsite (by decide) r) fun _ => ?_
    refine .bind (plain_wholeField? hsite (by decide) r) fun _ => ?_
    exact .bind (plain_wholeField? hsite (by decide) r) fun _ => failsOnlyWith_pure _

end Records

section Sections

variable {α β : Type} {r : Record α}

theorem plain_readSlot (index : Nat) (v : Json α) :
    FailsOnlyWith Flaw.Plain (readSlot index v) := by
  unfold readSlot
  split <;> simp [Flaw.Plain]

theorem plain_sectionItems {key : String} (hkey : OneLine key) :
    FailsOnlyWith Flaw.Plain (sectionItems key r) := by
  unfold sectionItems
  split <;> simp [Flaw.Plain, hkey]

theorem plain_requiredItems {key : String} (hkey : OneLine key) :
    FailsOnlyWith Flaw.Plain (requiredItems key r) := by
  unfold requiredItems
  split
  · simp [Flaw.Plain, hkey]
  · exact plain_sectionItems hkey

theorem plain_teamItems : FailsOnlyWith Flaw.Plain (teamItems r) := by
  unfold teamItems
  repeat' split
  all_goals simp [Flaw.Plain]

theorem plain_readItems {key : String} (hkey : OneLine key)
    {reader : Site → Json α → Except (Flaw α) β}
    (h : ∀ site, OneLine site.list → ∀ v, FailsOnlyWith Flaw.Plain (reader site v))
    (items : List (Json α)) : FailsOnlyWith Flaw.Plain (readItems key reader items) := by
  intro flaw hflaw
  have hfails : FailsWith (· = flaw) (readItems key reader items) := ⟨flaw, hflaw, rfl⟩
  obtain ⟨before, v, after, -, -, flaw', hv, rfl⟩ := failsWith_readItems.1 hfails
  exact h ⟨key, before.length⟩ hkey v flaw' hv

variable [Numeral α]

theorem plain_readRoll : FailsOnlyWith Flaw.Plain (readRoll r) := by
  refine .bind (plain_requiredItems (by decide)) fun _ => ?_
  refine .bind (plain_readItems (by decide) (fun _ h v => plain_readSpecies h v) _) fun _ => ?_
  refine .bind (plain_sectionItems (by decide)) fun _ => ?_
  refine .bind (plain_readItems (by decide) (fun _ h v => plain_readGear h v) _) fun _ => ?_
  refine .bind (plain_sectionItems (by decide)) fun _ => ?_
  refine .bind (plain_readItems (by decide) (fun _ h v => plain_readGear h v) _) fun _ => ?_
  refine .bind (plain_sectionItems (by decide)) fun _ => ?_
  exact .bind (plain_readItems (by decide) (fun _ h v => plain_readChange h v) _) fun _ =>
    failsOnlyWith_pure _

theorem plain_readBoxAndTeam (given : Option Text) (types : List TypeInfo)
    (chart : List (ChartRow α)) (roll : Roll α) :
    FailsOnlyWith Flaw.Plain (readBoxAndTeam r given types chart roll).result := by
  rw [result_readBoxAndTeam]
  refine .bind (.bind (plain_sectionItems (by decide)) fun _ => ?_) fun _ => ?_
  · exact plain_readItems (by decide) (fun _ h v => plain_readBoxEntry h v) _
  · refine .bind (.bind plain_teamItems fun _ => ?_) fun _ => ?_
    · exact plain_readItems (by decide) (fun site _ v => plain_readSlot site.index v) _
    · exact .bind (.mapError (Settings.plain_ofJson _)) fun _ => failsOnlyWith_pure _

/-- The flaws of a document name no more than the parts of documents. -/
theorem plain_read (given : Option Text) (v : Json α) :
    FailsOnlyWith Flaw.Plain (read given v).result := by
  cases v with
  | object r =>
    rw [result_read_object]
    refine .bind (.bind (plain_requiredItems (by decide)) fun _ => ?_) fun _ => ?_
    · refine .bind (plain_readItems (by decide) (fun _ h v => plain_readType h v) _) fun types => ?_
      split <;> simp [Flaw.Plain]
    · refine .bind (.bind (plain_sectionItems (by decide)) fun _ => ?_) fun _ => ?_
      · exact plain_readItems (by decide) (fun _ h v => plain_readChartRow h v) _
      · exact .bind plain_readRoll fun roll => plain_readBoxAndTeam _ _ _ roll
  | _ => simp [read, Flaw.Plain]

end Sections

end Game

end Roster
