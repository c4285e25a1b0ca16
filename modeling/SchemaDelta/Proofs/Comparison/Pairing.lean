import SchemaDelta.Comparison.Basic
import SchemaDelta.Proofs.Ddl.Scripting

/-!
# Where pairings come from

Every pairing of a comparison is about objects of the compared databases, and its status says which
side lacks the object or whether the objects of both sides are the same.
-/

namespace SchemaDelta

open Attempt (bind_eq_ok_iff)

/-- A pairing of objects of two collections under the right status. -/
def Pairing.IsOf
    (sources targets : List Value) : Pairing → Prop
  | onlySource source => source ∈ sources
  | onlyTarget target => target ∈ targets
  | identical source target =>
    source ∈ sources ∧ target ∈ targets ∧ source.sameObject target = .ok true
  | different source target =>
    source ∈ sources ∧ target ∈ targets ∧ source.sameObject target = .ok false

/-! ## Collections -/

/-- The objects of a collection under names were known before or belong to it. -/
private theorem mem_of_mem_namedObjects
    {matching : NameMatching}
    {objects : List Value}
    {known named : List NamedObject}
    (namedOk : (namedObjects matching known objects).result = .ok named)
    {entry : NamedObject}
    (member : entry ∈ named) :
    entry ∈ known ∨ entry.object ∈ objects := by
  induction objects generalizing known with
  | nil =>
      cases namedOk
      exact Or.inl member
  | cons object objects ih =>
      simp only [namedObjects, Scripting.result_bind, Scripting.result_liftM] at namedOk
      rcases bind_eq_ok_iff.mp namedOk with ⟨key, _, asKeyRun⟩
      rcases bind_eq_ok_iff.mp asKeyRun with ⟨key, _, continued⟩
      split at continued
      · simp only [Scripting.result_bind, Scripting.result_liftM] at continued
        rcases bind_eq_ok_iff.mp continued with ⟨_, _, noticed⟩
        rcases bind_eq_ok_iff.mp noticed with ⟨_, _, rest⟩
        exact (ih rest).imp_right (List.mem_cons_of_mem object)
      · rcases ih continued with known | later
        · rcases List.mem_append.mp known with old | new
          · exact Or.inl old
          · cases List.mem_singleton.mp new
            exact Or.inr List.mem_cons_self
        · exact Or.inr (List.mem_cons_of_mem object later)

/-- An object that stands under a key belongs to the collection. -/
private theorem mem_of_objectUnder?
    {matching : NameMatching}
    {objects : List Value}
    {named : List NamedObject}
    (namedOk : (namedObjects matching [] objects).result = .ok named)
    {key object : Value}
    (found : objectUnder? named key = some object) :
    object ∈ objects := by
  rcases Option.map_eq_some_iff.mp found with ⟨entry, entryFound, rfl⟩
  rcases mem_of_mem_namedObjects namedOk (List.mem_of_find?_eq_some entryFound) with old | own
  · cases old
  · exact own

/-- A pairing of what stands under one key on either side. -/
private theorem isOf_of_ofSides
    {sources targets : List Value}
    {source? target? : Option Value}
    {pairing : Pairing}
    (sourceMember : ∀ source, source? = some source → source ∈ sources)
    (targetMember : ∀ target, target? = some target → target ∈ targets)
    (paired : Pairing.ofSides source? target? = .ok (some pairing)) :
    pairing.IsOf sources targets := by
  cases source? with
  | none =>
      cases target? with
      | none => cases paired
      | some target =>
          cases paired
          exact targetMember target rfl
  | some source =>
      cases target? with
      | none =>
          cases paired
          exact sourceMember source rfl
      | some target =>
          rcases bind_eq_ok_iff.mp paired with ⟨isSame, sameOk, equal⟩
          cases isSame with
          | true =>
              cases equal
              exact ⟨sourceMember source rfl, targetMember target rfl, sameOk⟩
          | false =>
              cases equal
              exact ⟨sourceMember source rfl, targetMember target rfl, sameOk⟩

/-- Every pairing of two collections is of their objects. -/
private theorem isOf_of_mem_pairObjects
    {matching : NameMatching}
    {sources targets : Attempt (List Value)}
    {pairings : List Pairing}
    (pairedOk : (pairObjects matching sources targets).result = .ok pairings)
    {pairing : Pairing}
    (member : pairing ∈ pairings) :
    ∃ sourceObjects targetObjects,
      sources = .ok sourceObjects ∧ targets = .ok targetObjects ∧
        pairing.IsOf sourceObjects targetObjects := by
  simp only [pairObjects, Scripting.result_bind, Scripting.result_liftM] at pairedOk
  rcases bind_eq_ok_iff.mp pairedOk with ⟨sourceObjects, sourcesOk, named⟩
  rcases bind_eq_ok_iff.mp named with ⟨namedSources, namedSourcesOk, targetsRun⟩
  rcases bind_eq_ok_iff.mp targetsRun with ⟨targetObjects, targetsOk, namedRun⟩
  rcases bind_eq_ok_iff.mp namedRun with ⟨namedTargets, namedTargetsOk, keysRun⟩
  rcases bind_eq_ok_iff.mp keysRun with ⟨keys, _, pairsRun⟩
  rcases bind_eq_ok_iff.mp pairsRun with ⟨found, foundOk, equal⟩
  cases equal
  rcases List.mem_filterMap.mp member with ⟨_, held, rfl⟩
  simp only [Scripting.result_mapM, Scripting.result_liftM] at foundOk
  rcases Attempt.exists_of_mem_mapM foundOk held with ⟨key, _, paired⟩
  exact ⟨sourceObjects, targetObjects, sourcesOk, targetsOk, isOf_of_ofSides
    (fun _ => mem_of_objectUnder? namedSourcesOk) (fun _ => mem_of_objectUnder? namedTargetsOk)
    paired⟩

/-! ## Comparisons -/

/-- Every pairing of a comparison is of objects of both databases. -/
theorem Comparison.isOf_of_mem_pairings
    {source target : Value}
    {comparison : Comparison}
    {kind : ObjectKind}
    {pairing : Pairing}
    (comparisonOk : (Comparison.between source target).result = .ok comparison)
    (member : pairing ∈ comparison.pairings kind) :
    ∃ sources targets, source.objectsOf kind = .ok sources ∧
      target.objectsOf kind = .ok targets ∧ pairing.IsOf sources targets := by
  simp only [Comparison.between, Scripting.result_bind, Scripting.result_liftM,
    Scripting.result_mapM] at comparisonOk
  rcases bind_eq_ok_iff.mp comparisonOk with ⟨_, _, sourceRun⟩
  rcases bind_eq_ok_iff.mp sourceRun with ⟨_, _, sourceNamed⟩
  rcases bind_eq_ok_iff.mp sourceNamed with ⟨_, _, targetNamed⟩
  rcases bind_eq_ok_iff.mp targetNamed with ⟨_, _, kindsRun⟩
  cases found : comparison.lookup kind with
  | none =>
      rw [pairings, found] at member
      cases member
  | some pairings =>
      rw [Comparison.pairings, found] at member
      rcases List.lookup_eq_some_iff.mp found with ⟨before, after, rfl, _⟩
      rcases Attempt.exists_of_mem_mapM kindsRun
          (List.mem_append_right before List.mem_cons_self) with
        ⟨_, _, paired⟩
      rcases bind_eq_ok_iff.mp paired with ⟨_, pairedOk, equal⟩
      cases equal
      exact isOf_of_mem_pairObjects pairedOk member

end SchemaDelta
