import SchemaDelta.Proofs.Comparison.Pairing
import SchemaDelta.Proofs.Comparison.Sameness
import SchemaDelta.Proofs.Value.Filled

/-!
# Soundness of identical pairings

Tables that a comparison takes to be identical have the same names in all their parts, so that a
scripter alters nothing between them unless it tells rows or columns apart that count as alike.  It
does so for the rules of foreign keys, which are members of an enumeration.
-/

namespace SchemaDelta

namespace Comparison

variable {left right source target : Value} {comparison : Comparison}

/--
The alteration between tables that a comparison takes to be identical is empty exactly when the
scripter finds no change between them.
-/
theorem alteration_of_identical_eq_empty_iff
    (scripter : Scripter)
    (compared : (Comparison.between left right).result = .ok comparison)
    (identical : .identical source target ∈ comparison.pairings .tables)
    (sourceTyped : source.isTyped .table = true)
    (targetTyped : target.isTyped .table = true)
    (sourceApart : scripter.dialect.TellsColumnsApart source)
    (targetApart : scripter.dialect.TellsColumnsApart target) :
    (scripter.scriptTable true source target).result = .ok "" ↔
      scripter.FindsNoChange source target := by
  rcases isOf_of_mem_pairings compared identical with ⟨_, _, _, _, _, _, sameTables⟩
  rcases Value.isTyped_iff.mp sourceTyped with ⟨_, _, sourceEqual, _, _⟩
  rcases Value.isTyped_iff.mp targetTyped with ⟨_, _, targetEqual, _, _⟩
  have altered : scripter.scriptTable true source target =
      liftM (scripter.alterTable source target true) := by
    rw [sourceEqual, targetEqual]
    rfl
  rw [altered, Scripting.result_liftM]
  exact scripter.alterTable_eq_empty_iff sourceTyped targetTyped sourceApart targetApart
    (Value.hasNamesOf_of_sameObject sourceTyped targetTyped sameTables)
    (Value.inheritanceSteps_of_sameObject sourceTyped targetTyped sameTables)

/-! ## Databases of one table -/

/-- The one pairing of two databases of one table each, found by its status. -/
private theorem identical_of_statuses
    (name other : String)
    (source target : Value)
    (statuses :
      ((Comparison.between (.plainDatabase name [source])
          (.plainDatabase other [target])).result.toOption.map fun comparison =>
        (comparison.pairings .tables).map (·.status)) = some [.identical]) :
    ∃ comparison,
      (Comparison.between (.plainDatabase name [source])
        (.plainDatabase other [target])).result = .ok comparison ∧
        .identical source target ∈ comparison.pairings .tables := by
  rcases Option.map_eq_some_iff.mp statuses with ⟨comparison, found, listed⟩
  cases compared : (Comparison.between (.plainDatabase name [source])
      (.plainDatabase other [target])).result with
  | error failure =>
      rw [compared] at found
      cases found
  | ok known =>
      rw [compared] at found
      cases found
      rcases List.map_eq_cons_iff.mp listed with ⟨pairing, rest, pairingsEqual, isIdentical, _⟩
      have member : pairing ∈ comparison.pairings .tables := by
        rw [pairingsEqual]
        exact List.mem_cons_self
      cases pairing with
      | identical first second =>
          rcases isOf_of_mem_pairings compared member with
            ⟨_, _, sources, targets, firstMember, secondMember, _⟩
          cases sources
          cases targets
          cases List.mem_singleton.mp firstMember
          cases List.mem_singleton.mp secondMember
          exact ⟨comparison, rfl, member⟩
      | _ => cases isIdentical

/-- A table with one column at a position. -/
private def tableAt
    (position : Int) : Value :=
  .plainTable "o" [.plainColumn "t_id" "integer" position] [] [] []

/-- A table with one foreign key under a rule. -/
private def tableUnder
    (rule : ReferentialAction) : Value :=
  .plainTable "o" [.plainColumn "t_id" "integer" 1] []
    [.plainForeignKey "o" "fk" "t_id" "t" "id" rule] []

private theorem tableAt_isTyped
    (position : Int) :
    (tableAt position).isTyped .table = true :=
  Value.isTyped_plainTable "o"
    (fun column member => by
      rw [List.mem_singleton.mp member]
      exact Value.isTyped_plainColumn "t_id" "integer" position)
    (fun _ => List.not_mem_nil.elim) (fun _ => List.not_mem_nil.elim)
    (fun _ => List.not_mem_nil.elim)

/-- Positions of columns count neither for a comparison nor for a scripter. -/
theorem alteration_of_moved_column_eq_empty :
    ∃ comparison,
      (Comparison.between (.plainDatabase "s" [tableAt 1])
        (.plainDatabase "d" [tableAt 2])).result = .ok comparison ∧
        .identical (tableAt 1) (tableAt 2) ∈ comparison.pairings .tables ∧
        ((Scripter.mk .postgreSql {}).scriptTable true (tableAt 1) (tableAt 2)).result = .ok "" := by
  rcases identical_of_statuses "s" "d" (tableAt 1) (tableAt 2) (by decide +kernel) with
    ⟨comparison, compared, identical⟩
  refine ⟨comparison, compared, identical, ?_⟩
  refine (alteration_of_identical_eq_empty_iff (Scripter.mk .postgreSql {}) compared identical
    (tableAt_isTyped 1) (tableAt_isTyped 2) (by decide) (by decide)).mpr ?_
  refine ⟨fun _ => rfl, fun _ => rfl, fun _ => rfl, fun _ => rfl, ?_⟩
  intro column member other otherMember _
  cases List.mem_singleton.mp member
  cases List.mem_singleton.mp otherMember
  exact Or.inl rfl

private theorem tableUnder_isTyped
    (rule : ReferentialAction) :
    (tableUnder rule).isTyped .table = true :=
  Value.isTyped_plainTable "o"
    (fun column member => by
      rw [List.mem_singleton.mp member]
      exact Value.isTyped_plainColumn "t_id" "integer" 1)
    (fun _ => List.not_mem_nil.elim)
    (fun row member => by
      rw [List.mem_singleton.mp member]
      exact Value.isTyped_plainForeignKey "o" "fk" "t_id" "t" "id" rule)
    (fun _ => List.not_mem_nil.elim)

/-- A changed rule of a foreign key is altered although the comparison takes it to be identical. -/
theorem alteration_of_identical_with_other_rule :
    ∃ comparison,
      (Comparison.between (.plainDatabase "s" [tableUnder .cascade])
        (.plainDatabase "d" [tableUnder .noAction])).result = .ok comparison ∧
        .identical (tableUnder .cascade) (tableUnder .noAction) ∈ comparison.pairings .tables ∧
        (∀ rule, (tableUnder rule).isTyped .table = true ∧
          Dialect.postgreSql.TellsColumnsApart (tableUnder rule)) ∧
        ((Scripter.mk .postgreSql {}).scriptTable true (tableUnder .cascade)
          (tableUnder .noAction)).result ≠ .ok "" := by
  rcases identical_of_statuses "s" "d" (tableUnder .cascade) (tableUnder .noAction)
      (by decide +kernel) with
    ⟨comparison, compared, identical⟩
  refine ⟨comparison, compared, identical, fun rule => ⟨tableUnder_isTyped rule, ?_⟩,
    fun empty => ?_⟩
  · exact List.nodup_singleton _
  have scripted : ((Scripter.mk .postgreSql {}).scriptTable true (tableUnder .cascade)
      (tableUnder .noAction)).result.toOption ≠ some "" := by
    decide +kernel
  rw [empty] at scripted
  exact scripted rfl

end Comparison

end SchemaDelta
