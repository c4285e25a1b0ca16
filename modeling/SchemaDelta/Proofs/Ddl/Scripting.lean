import SchemaDelta.Ddl.Scripting
import SchemaDelta.Proofs.Attempt

/-!
# Results of scripting

The result of one step after the other is found from the results of the steps; the notices have no
part in it.
-/

namespace SchemaDelta.Scripting

variable {α β γ : Type}

@[simp]
theorem result_pure
    (value : α) :
    (pure value : Scripting α).result = .ok value :=
  rfl

@[simp]
theorem result_liftM
    (attempt : Attempt α) :
    (liftM attempt : Scripting α).result = attempt :=
  rfl

@[simp]
theorem result_bind
    (first : Scripting α)
    (next : α → Scripting β) :
    (first >>= next).result = first.result >>= fun value => (next value).result := by
  rcases first with ⟨notices, result⟩
  cases result <;> rfl

@[simp]
theorem result_map
    (result : α → β)
    (run : Scripting α) :
    (result <$> run).result = result <$> run.result := by
  rcases run with ⟨notices, answer⟩
  cases answer <;> rfl

/-- A notice about a failure leaves the failure as it is. -/
@[simp]
theorem result_guarded
    (what : String)
    (run : Scripting α) :
    (guarded what run).result = run.result := by
  rcases run with ⟨notices, result⟩
  cases result with
  | ok value => rfl
  | error failure =>
      simp only [guarded]
      split
      · rfl
      · rfl

/-! ## Laws of the monad -/

private theorem bind_pure_comp
    (run : Scripting α) :
    (run >>= pure) = run := by
  rcases run with ⟨notices, result⟩
  cases result with
  | error failure => rfl
  | ok value => exact congrArg (Scripting.mk · _) (List.append_nil notices)

private theorem bind_assoc
    (run : Scripting α)
    (next : α → Scripting β)
    (last : β → Scripting γ) :
    run >>= next >>= last = run >>= fun value => next value >>= last := by
  rcases run with ⟨notices, result⟩
  cases result with
  | error failure => rfl
  | ok value =>
      change andThen (andThen _ next) last = andThen _ fun value => andThen (next value) last
      simp only [andThen]
      cases (next value).result <;> simp

instance : LawfulMonad Scripting :=
  LawfulMonad.mk' Scripting bind_pure_comp (fun _ _ => rfl) bind_assoc

/-- The results of a traversal are those of its steps. -/
theorem result_mapM
    (run : α → Scripting β)
    (items : List α) :
    (items.mapM run).result = items.mapM fun item => (run item).result := by
  induction items with
  | nil => rfl
  | cons item items ih =>
      simp only [List.mapM_cons, result_bind, ih]
      rfl

end SchemaDelta.Scripting
