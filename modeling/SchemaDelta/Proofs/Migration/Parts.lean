import SchemaDelta.Proofs.Migration.ForeignKeyName
import SchemaDelta.Proofs.Migration.Planning

/-!
# Actions of parts

Which actions the sections of a part have.  A part is quiet when none of its actions drops foreign
keys on its own, so that the parts behind it do not depend on it.
-/

namespace SchemaDelta

open Attempt (bind_eq_ok_iff)

namespace MigrationAction

/-- The action drops or adds foreign keys by statements of their own. -/
def isAboutForeignKeys : MigrationAction → Bool
  | dropForeignKeys _ | addTableForeignKeys _ | addForeignKeys _ => true
  | _ => false

/-- Of some actions those that drop or add foreign keys. -/
def aboutForeignKeys
    (actions : List MigrationAction) : List MigrationAction :=
  actions.filter isAboutForeignKeys

@[simp]
theorem aboutForeignKeys_append
    (actions others : List MigrationAction) :
    aboutForeignKeys (actions ++ others) = aboutForeignKeys actions ++ aboutForeignKeys others :=
  List.filter_append ..

/-- What is told only of actions about foreign keys is told of all actions by these. -/
theorem flatMap_aboutForeignKeys
    {α : Type}
    {told : MigrationAction → List α}
    (silent : ∀ action, action.isAboutForeignKeys = false → told action = [])
    (actions : List MigrationAction) :
    (aboutForeignKeys actions).flatMap told = actions.flatMap told := by
  induction actions with
  | nil => rfl
  | cons action actions ih =>
      rw [aboutForeignKeys, List.filter_cons]
      split
      · rw [List.flatMap_cons, List.flatMap_cons]
        exact congrArg _ ih
      · rename_i quiet
        rw [List.flatMap_cons, silent action (Bool.eq_false_iff.mpr quiet), List.nil_append]
        exact ih

theorem drops_of_quiet
    {action : MigrationAction}
    (quiet : action.isAboutForeignKeys = false) :
    action.drops = [] := by
  cases action with
  | dropForeignKeys rows => cases quiet
  | _ => rfl

theorem adds_of_quiet
    {action : MigrationAction}
    (quiet : action.isAboutForeignKeys = false) :
    action.adds = [] := by
  cases action with
  | addTableForeignKeys table => cases quiet
  | addForeignKeys rows => cases quiet
  | _ => rfl

end MigrationAction

namespace MigrationSection

/-- The actions of sections in their order. -/
def actionsOf
    (sections : List MigrationSection) : List MigrationAction :=
  sections.flatMap (·.actions)

@[simp]
theorem actionsOf_append
    (sections others : List MigrationSection) :
    actionsOf (sections ++ others) = actionsOf sections ++ actionsOf others :=
  List.flatMap_append

theorem droppedForeignKeys_eq
    (sections : List MigrationSection) :
    sections.flatMap droppedForeignKeys =
      (actionsOf sections).flatMap MigrationAction.droppedForeignKeys := by
  rw [actionsOf, List.flatMap_assoc]
  rfl

private theorem actionsOf_counted
    (activity things : String)
    {count : Nat}
    {actions : List MigrationAction}
    (counts : count = 0 → actions = []) :
    actionsOf (counted activity count things actions) = actions := by
  unfold counted
  split
  · rename_i none
    rw [counts none]
    rfl
  · simp [actionsOf]

/-- A section with one action for every item has these actions. -/
@[simp]
theorem actionsOf_ofItems
    {α : Type}
    (activity things : String)
    (items : List α)
    (action : α → MigrationAction) :
    actionsOf (ofItems activity things items action) = items.map action :=
  actionsOf_counted activity things fun none => by
    rw [List.length_eq_zero_iff.mp none, List.map_nil]

/-- A section about foreign keys has one action about all of them, if there are any. -/
theorem actionsOf_ofForeignKeys
    {activity things : String}
    {rows : List Value}
    {action : List Value → MigrationAction}
    {sections : List MigrationSection}
    (sectionsOk : ofForeignKeys activity things rows action = .ok sections) :
    actionsOf sections = if rows.isEmpty then [] else [action rows] := by
  cases rows with
  | nil =>
      cases sectionsOk
      rfl
  | cons row rows =>
      rw [ofForeignKeys, List.isEmpty_cons, if_neg Bool.false_ne_true] at sectionsOk
      rcases bind_eq_ok_iff.mp sectionsOk with ⟨groups, grouped, equal⟩
      cases equal
      apply actionsOf_counted activity things
      intro none
      exact absurd (List.length_eq_zero_iff.mp none)
        (Value.ne_nil_of_groups grouped (List.cons_ne_nil row rows))

end MigrationSection

namespace Migration

open MigrationSection (actionsOf)

variable {migration : Migration}

/-- Whenever a part can be planned, its sections have these actions. -/
def Part.Yields
    (part : Part)
    (actions : List MigrationAction) : Prop :=
  ∀ dropped, Attempt.Ensures (fun sections => actionsOf sections = actions) (part dropped)

/-- A part that yields actions of which none drops foreign keys on its own. -/
def Part.YieldsQuietly
    (part : Part)
    (actions : List MigrationAction) : Prop :=
  part.Yields actions ∧ actions.flatMap MigrationAction.droppedForeignKeys = []

/-- The first of several parts is planned before the others, which know what it drops. -/
theorem planParts_cons_ok
    {part : Part}
    {parts : List Part}
    {dropped final : List Value}
    {sections : List MigrationSection}
    (planned : migration.planParts (part :: parts) dropped = .ok (sections, final)) :
    ∃ own keyed rest, part dropped = .ok own ∧
      migration.scripter.dialect.identified
        ((actionsOf own).flatMap MigrationAction.droppedForeignKeys) = .ok keyed ∧
      migration.planParts parts (dropped ++ keyed.map (·.1)) = .ok (rest, final) ∧
      actionsOf sections = actionsOf own ++ actionsOf rest := by
  rcases bind_eq_ok_iff.mp planned with ⟨⟨own, keyed⟩, partPlanned, restRun⟩
  rcases bind_eq_ok_iff.mp restRun with ⟨⟨rest, _⟩, restOk, equal⟩
  cases equal
  rcases bind_eq_ok_iff.mp partPlanned with ⟨_, ownOk, keyedRun⟩
  rcases bind_eq_ok_iff.mp keyedRun with ⟨_, keyedOk, equal⟩
  cases equal
  rw [MigrationSection.droppedForeignKeys_eq] at keyedOk
  exact ⟨own, keyed, rest, ownOk, keyedOk, restOk, MigrationSection.actionsOf_append own rest⟩

/-- Quiet parts leave the dropped foreign keys as they are. -/
theorem planParts_of_yieldsQuietly
    {parts : List Part}
    {yields : List (List MigrationAction)}
    (quiet : List.Forall₂ Part.YieldsQuietly parts yields)
    {dropped final : List Value}
    {sections : List MigrationSection}
    (planned : migration.planParts parts dropped = .ok (sections, final)) :
    final = dropped ∧ actionsOf sections = yields.flatten := by
  induction quiet generalizing dropped sections with
  | nil =>
      cases planned
      exact ⟨rfl, rfl⟩
  | cons first _ ih =>
      rcases planParts_cons_ok planned with ⟨own, keyed, rest, ownOk, keyedOk, restOk, actions⟩
      rw [first.1 dropped own ownOk] at keyedOk actions
      rw [first.2] at keyedOk
      obtain rfl : keyed = [] := (Except.ok.inj keyedOk).symm
      rw [List.map_nil, List.append_nil] at restOk
      rcases ih restOk with ⟨rfl, restActions⟩
      exact ⟨rfl, by rw [actions, restActions, List.flatten_cons]⟩

/-- Quiet parts in front of others have no say in what the others drop. -/
theorem planParts_append_of_yieldsQuietly
    {parts others : List Part}
    {yields : List (List MigrationAction)}
    (quiet : List.Forall₂ Part.YieldsQuietly parts yields)
    {dropped final : List Value}
    {sections : List MigrationSection}
    (planned : migration.planParts (parts ++ others) dropped = .ok (sections, final)) :
    ∃ rest, migration.planParts others dropped = .ok (rest, final) ∧
      actionsOf sections = yields.flatten ++ actionsOf rest := by
  rcases planParts_append_iff.mp planned with
    ⟨first, middle, rest, firstPlanned, restPlanned, rfl⟩
  rcases planParts_of_yieldsQuietly quiet firstPlanned with ⟨rfl, firstActions⟩
  exact ⟨rest, restPlanned, by rw [MigrationSection.actionsOf_append, firstActions]⟩

/-! ## Parts about pairings -/

theorem yields_ofPairings
    (activity things : String)
    (pairings : List Pairing)
    (action : Pairing → MigrationAction) :
    (Part.ofPairings activity things pairings action).Yields (pairings.map action) := by
  intro dropped sections planned
  cases planned
  exact MigrationSection.actionsOf_ofItems activity things pairings action

theorem droppedForeignKeys_map
    {α : Type}
    {action : α → MigrationAction}
    (silent : ∀ item, (action item).droppedForeignKeys = [])
    (items : List α) :
    (items.map action).flatMap MigrationAction.droppedForeignKeys = [] := by
  rw [List.flatMap_map]
  exact List.flatMap_eq_nil_iff.mpr fun item _ => silent item

theorem yieldsQuietly_ofPairings
    {activity things : String}
    {pairings : List Pairing}
    {action : Pairing → MigrationAction}
    (silent : ∀ pairing, (action pairing).droppedForeignKeys = []) :
    (Part.ofPairings activity things pairings action).YieldsQuietly (pairings.map action) :=
  ⟨yields_ofPairings _ _ _ action, droppedForeignKeys_map silent _⟩

/-- What is done with modules that are new or altered. -/
theorem yieldsQuietly_programmabilityPart
    (kind : ObjectKind)
    {action : Value → Pairing → MigrationAction}
    (silent : ∀ types pairing, (action types pairing).droppedForeignKeys = [])
    {types : Value}
    (typesOk : migration.allTypes = .ok types) :
    (migration.programmabilityPart kind action).YieldsQuietly
      ((migration.changed kind).map (action types)) := by
  refine ⟨?_, droppedForeignKeys_map (silent types) _⟩
  intro dropped
  rw [programmabilityPart]
  split
  · rename_i none
    rw [List.isEmpty_iff.mp none]
    exact Attempt.ensures_pure rfl
  · rw [typesOk]
    exact yields_ofPairings _ _ _ (action types) dropped

end Migration

end SchemaDelta
