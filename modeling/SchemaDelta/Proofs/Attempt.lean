import Mathlib.Data.List.Forall2
import SchemaDelta.Ddl.Access

/-!
# Traversals by attempts

A traversal of a list by attempts that all succeed is the traversal of the list by their results.
A sequence of attempts succeeds exactly when each of them does.
-/

namespace SchemaDelta.Attempt

variable {α β : Type}

/-- A sequence of two attempts succeeds exactly when both do, whatever their failures are. -/
theorem bind_eq_ok_iff
    {ε : Type}
    {first : Except ε α}
    {next : α → Except ε β}
    {result : β} :
    (first >>= next) = .ok result ↔
      ∃ middle, first = .ok middle ∧ next middle = .ok result := by
  cases first with
  | error failure =>
      constructor
      · intro impossible
        cases impossible
      · rintro ⟨middle, impossible, _⟩
        cases impossible
  | ok value =>
      constructor
      · intro succeeds
        exact ⟨value, rfl, succeeds⟩
      · rintro ⟨middle, equal, succeeds⟩
        cases equal
        exact succeeds

@[simp]
theorem ok_bind
    (value : α)
    (next : α → Attempt β) :
    ((Except.ok value : Attempt α) >>= next) = next value :=
  rfl

@[simp]
theorem pure_eq_ok
    (value : α) :
    (pure value : Attempt α) = .ok value :=
  rfl

@[simp]
theorem discard_ok
    (value : α) :
    (discard (Except.ok value : Attempt α) : Attempt Unit) = .ok () :=
  rfl

theorem exists_ok_of_isSome
    {attempt : Attempt α}
    (succeeds : attempt.toOption.isSome = true) :
    ∃ result, attempt = .ok result ∧ attempt.toOption = some result := by
  cases attempt with
  | error failure => cases succeeds
  | ok result => exact ⟨result, rfl, rfl⟩

/-- If there is a result, it has a property. -/
def Ensures
    (property : α → Prop)
    (attempt : Attempt α) : Prop :=
  ∀ result, attempt = .ok result → property result

/-- What a first attempt ensures counts for the second one. -/
theorem Ensures.bind
    {property : α → Prop}
    {other : β → Prop}
    {first : Attempt α}
    {next : α → Attempt β}
    (ensures : Ensures property first)
    (nextEnsures : ∀ value, property value → Ensures other (next value)) :
    Ensures other (first >>= next) := by
  intro result succeeds
  rcases bind_eq_ok_iff.mp succeeds with ⟨value, firstOk, nextOk⟩
  exact nextEnsures value (ensures value firstOk) result nextOk

theorem ensures_bind
    {property : β → Prop}
    {first : Attempt α}
    {next : α → Attempt β}
    (ensures : ∀ value, Ensures property (next value)) :
    Ensures property (first >>= next) :=
  Ensures.bind (fun _ _ => trivial) fun value _ => ensures value

theorem ensures_pure
    {property : α → Prop}
    {value : α}
    (holds : property value) :
    Ensures property (pure value) := by
  intro result succeeds
  cases succeeds
  exact holds

theorem ensures_error
    {property : α → Prop}
    {failure : ScriptFailure} :
    Ensures property (.error failure) :=
  fun _ impossible => nomatch impossible

theorem ensures_ite
    {property : α → Prop}
    {condition : Prop}
    [Decidable condition]
    {first second : Attempt α}
    (firstEnsures : Ensures property first)
    (secondEnsures : Ensures property second) :
    Ensures property (if condition then first else second) := by
  split
  · exact firstEnsures
  · exact secondEnsures

/-- A list is mapped by the results of attempts that all succeed. -/
theorem mapM_ok
    {attempt : α → Attempt β}
    {result : α → β}
    {items : List α}
    (succeeds : ∀ item ∈ items, attempt item = .ok (result item)) :
    items.mapM attempt = .ok (items.map result) := by
  induction items with
  | nil => rfl
  | cons item items ih =>
      have rest := ih fun other member =>
        succeeds other (List.mem_cons_of_mem item member)
      rw [List.mapM_cons, succeeds item List.mem_cons_self, rest]
      rfl

/-- Attempts that all succeed with a property have results with the property, item by item. -/
theorem exists_mapM_ok
    {attempt : α → Attempt β}
    {property : α → β → Prop}
    {items : List α}
    (succeeds : ∀ item ∈ items, ∃ result, attempt item = .ok result ∧ property item result) :
    ∃ results, items.mapM attempt = .ok results ∧ List.Forall₂ property items results := by
  induction items with
  | nil => exact ⟨[], rfl, .nil⟩
  | cons item items ih =>
      rcases succeeds item List.mem_cons_self with ⟨first, firstOk, firstHolds⟩
      rcases ih fun other member => succeeds other (List.mem_cons_of_mem item member) with
        ⟨rest, restOk, restHolds⟩
      refine ⟨first :: rest, ?_, .cons firstHolds restHolds⟩
      rw [List.mapM_cons, firstOk, restOk]
      rfl

/-- The results of a traversal that succeeds are those of the attempts, item by item. -/
theorem forall₂_of_mapM
    {attempt : α → Attempt β}
    {items : List α}
    {results : List β}
    (succeeds : items.mapM attempt = .ok results) :
    List.Forall₂ (fun item result => attempt item = .ok result) items results := by
  induction items generalizing results with
  | nil =>
      cases succeeds
      exact .nil
  | cons item items ih =>
      rw [List.mapM_cons] at succeeds
      rcases bind_eq_ok_iff.mp succeeds with ⟨first, firstOk, restRun⟩
      rcases bind_eq_ok_iff.mp restRun with ⟨rest, restOk, equal⟩
      cases equal
      exact .cons firstOk (ih restOk)

/-- A traversal has the results that its attempts have, one by one. -/
theorem mapM_eq_ok_of_map_eq
    {attempt : α → Attempt β}
    {items : List α}
    {results : List β}
    (each : items.map attempt = results.map .ok) :
    items.mapM attempt = .ok results := by
  induction items generalizing results with
  | nil =>
      obtain rfl := List.map_eq_nil_iff.mp each.symm
      rfl
  | cons item items ih =>
      cases results with
      | nil => cases each
      | cons result results =>
          rw [List.map_cons, List.map_cons, List.cons.injEq] at each
          rw [List.mapM_cons, each.1, ih each.2]
          rfl

/-- Every result of a traversal that succeeds is the result of an attempt on an item. -/
theorem exists_of_mem_mapM
    {attempt : α → Attempt β}
    {items : List α}
    {results : List β}
    (succeeds : items.mapM attempt = .ok results)
    {result : β}
    (member : result ∈ results) :
    ∃ item ∈ items, attempt item = .ok result := by
  have each := forall₂_of_mapM succeeds
  clear succeeds
  induction each with
  | nil => cases member
  | cons firstOk _ ih =>
      rcases List.mem_cons.mp member with rfl | later
      · exact ⟨_, List.mem_cons_self, firstOk⟩
      · rcases ih later with ⟨item, itemMember, itemOk⟩
        exact ⟨item, List.mem_cons_of_mem _ itemMember, itemOk⟩

/-- A traversal that succeeds has a result of each of its items among its results. -/
theorem exists_mem_of_mapM
    {attempt : α → Attempt β}
    {items : List α}
    {results : List β}
    (succeeds : items.mapM attempt = .ok results) :
    ∀ item ∈ items, ∃ result ∈ results, attempt item = .ok result := by
  have each := forall₂_of_mapM succeeds
  clear succeeds
  induction each with
  | nil => exact fun _ => List.not_mem_nil.elim
  | cons firstOk _ ih =>
      refine List.forall_mem_cons.mpr ⟨⟨_, List.mem_cons_self, firstOk⟩, fun item member => ?_⟩
      rcases ih item member with ⟨result, listed, resultOk⟩
      exact ⟨result, List.mem_cons_of_mem _ listed, resultOk⟩

/-- A traversal that succeeds has one result for each item. -/
theorem length_of_mapM
    {attempt : α → Attempt β}
    {items : List α}
    {results : List β}
    (succeeds : items.mapM attempt = .ok results) :
    results.length = items.length :=
  (forall₂_of_mapM succeeds).length_eq.symm

/-- Attempts that agree on all items make the same traversal. -/
theorem mapM_congr
    {attempt other : α → Attempt β}
    {items : List α}
    (agree : ∀ item ∈ items, attempt item = other item) :
    items.mapM attempt = items.mapM other := by
  induction items with
  | nil => rfl
  | cons item items ih =>
      rw [List.mapM_cons, List.mapM_cons, agree item List.mem_cons_self,
        ih fun item member => agree item (List.mem_cons_of_mem _ member)]

/-- Attempts whose traversals have the same results agree on all items. -/
theorem eq_of_mapM
    {attempt other : α → Attempt β}
    {items : List α}
    {results : List β}
    (succeeds : items.mapM attempt = .ok results)
    (otherSucceeds : items.mapM other = .ok results) :
    ∀ item ∈ items, attempt item = other item := by
  have results := forall₂_of_mapM succeeds
  have otherResults := forall₂_of_mapM otherSucceeds
  clear succeeds otherSucceeds
  induction results with
  | nil => exact fun _ => List.not_mem_nil.elim
  | cons firstOk _ ih =>
      cases otherResults with
      | cons otherOk otherRest =>
          exact List.forall_mem_cons.mpr ⟨firstOk.trans otherOk.symm, ih otherRest⟩

private theorem filterAuxM_ok
    {attempt : α → Attempt Bool}
    {result : α → Bool}
    {items : List α}
    (succeeds : ∀ item ∈ items, attempt item = .ok (result item))
    (found : List α) :
    items.filterAuxM attempt found =
      .ok ((items.filter result).reverse ++ found) := by
  induction items generalizing found with
  | nil => rfl
  | cons item items ih =>
      have rest := ih fun other member =>
        succeeds other (List.mem_cons_of_mem item member)
      simp only [List.filterAuxM, succeeds item List.mem_cons_self, ok_bind]
      cases kept : result item with
      | true => simp [rest, kept]
      | false => simp [rest, kept]

/-- A list is filtered by the answers of attempts that all succeed. -/
theorem filterM_ok
    {attempt : α → Attempt Bool}
    {result : α → Bool}
    {items : List α}
    (succeeds : ∀ item ∈ items, attempt item = .ok (result item)) :
    items.filterM attempt = .ok (items.filter result) := by
  simp [List.filterM, filterAuxM_ok succeeds]

private theorem filterAuxM_sublist
    {test : α → Attempt Bool}
    {items found kept : List α}
    (succeeds : items.filterAuxM test found = .ok kept) :
    ∃ added : List α, kept = added.reverse ++ found ∧ added.Sublist items := by
  induction items generalizing found with
  | nil =>
      cases succeeds
      exact ⟨[], rfl, List.Sublist.slnil⟩
  | cons item items ih =>
      rw [List.filterAuxM] at succeeds
      rcases bind_eq_ok_iff.mp succeeds with ⟨passes, _, rest⟩
      rcases ih rest with ⟨added, equal, sublist⟩
      cases passes with
      | true => exact ⟨item :: added, by simpa using equal, sublist.cons_cons item⟩
      | false => exact ⟨added, equal, sublist.cons item⟩

/-- Items that pass a test by attempts that all succeed are items, in the same order. -/
theorem filterM_sublist
    {test : α → Attempt Bool}
    {items kept : List α}
    (succeeds : items.filterM test = .ok kept) :
    kept.Sublist items := by
  rcases bind_eq_ok_iff.mp succeeds with ⟨found, foundOk, equal⟩
  cases equal
  rcases filterAuxM_sublist foundOk with ⟨added, rfl, sublist⟩
  simpa using sublist

/-- Some item passes a test by attempts that all succeed. -/
theorem anyM_ok
    {attempt : α → Attempt Bool}
    {result : α → Bool}
    {items : List α}
    (succeeds : ∀ item ∈ items, attempt item = .ok (result item)) :
    items.anyM attempt = .ok (items.any result) := by
  induction items with
  | nil => rfl
  | cons item items ih =>
      have rest := ih fun other member =>
        succeeds other (List.mem_cons_of_mem item member)
      simp only [List.anyM, succeeds item List.mem_cons_self, ok_bind, rest]
      cases found : result item with
      | true => simp [found]
      | false => simp [found]

/-! ## Results carried from one attempt to another -/

/-- Where one attempt has a result, another one has a related result. -/
def CarriesTo
    (relation : α → β → Prop)
    (first : Attempt α)
    (second : Attempt β) : Prop :=
  ∀ result, first = .ok result → ∃ other, second = .ok other ∧ relation result other

theorem carriesTo_ok
    {relation : α → β → Prop}
    {result : α}
    {other : β}
    (related : relation result other) :
    CarriesTo relation (.ok result) (.ok other) := by
  rintro _ ⟨⟩
  exact ⟨other, rfl, related⟩

/-- What has no result carries over to anything. -/
theorem carriesTo_of_fails
    {relation : α → β → Prop}
    {first : Attempt α}
    {second : Attempt β}
    (fails : Ensures (fun _ => False) first) :
    CarriesTo relation first second :=
  fun result succeeds => (fails result succeeds).elim

theorem carriesTo_of_eq
    {first second : Attempt α}
    (same : first = second) :
    CarriesTo Eq first second :=
  fun result succeeds => ⟨result, same ▸ succeeds, rfl⟩

theorem carriesTo_bind
    {γ δ : Type}
    {relation : α → β → Prop}
    {property : γ → δ → Prop}
    {first : Attempt α}
    {second : Attempt β}
    {next : α → Attempt γ}
    {otherNext : β → Attempt δ}
    (carries : CarriesTo relation first second)
    (later : ∀ result other, relation result other →
      CarriesTo property (next result) (otherNext other)) :
    CarriesTo property (first >>= next) (second >>= otherNext) := by
  intro result succeeds
  rcases bind_eq_ok_iff.mp succeeds with ⟨middle, middleOk, nextOk⟩
  rcases carries middle middleOk with ⟨otherMiddle, otherOk, related⟩
  rcases later middle otherMiddle related result nextOk with ⟨other, otherNextOk, holds⟩
  exact ⟨other, bind_eq_ok_iff.mpr ⟨otherMiddle, otherOk, otherNextOk⟩, holds⟩

/-- What is made of the same result is the same. -/
theorem carriesTo_map
    {first second : Attempt α}
    (carries : CarriesTo Eq first second)
    (convert : α → β) :
    CarriesTo Eq (do return convert (← first)) (do return convert (← second)) :=
  carriesTo_bind carries fun _ _ same => carriesTo_ok (congrArg convert same)

/-- Attempts with the same results for corresponding items have the same list of results. -/
theorem carriesTo_mapM
    {γ : Type}
    {attempt : α → Attempt γ}
    {otherAttempt : β → Attempt γ}
    {items : List α}
    {others : List β}
    (carries : List.Forall₂ (fun item other =>
      CarriesTo Eq (attempt item) (otherAttempt other)) items others) :
    CarriesTo Eq (items.mapM attempt) (others.mapM otherAttempt) := by
  induction carries with
  | nil => exact carriesTo_ok rfl
  | cons first _ ih =>
      rw [List.mapM_cons, List.mapM_cons]
      refine carriesTo_bind first fun result _ same => ?_
      subst same
      exact carriesTo_map ih (result :: ·)

end SchemaDelta.Attempt
