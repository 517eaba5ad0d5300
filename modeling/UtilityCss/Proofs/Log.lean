import UtilityCss.Log

/-!
# Results and messages of logged computations

What a computation returns does not depend on its messages: the result of a sequence is the sequence
of results. A pass over a list fails as the first step that does; otherwise it collects what the
steps return. Its messages are those of the steps that were made.
-/
namespace UtilityCss.Logged

variable {ε ε' α β : Type}

@[simp] theorem result_pure (a : α) : (pure a : Logged ε α).result = .ok a := rfl

@[simp] theorem result_return (a : α) : (Pure.pure a : Logged ε α).result = .ok a := rfl

@[simp] theorem result_fail (e : ε) : (fail e : Logged ε α).result = .error e := rfl

@[simp] theorem result_ofExcept (r : Except ε α) : (ofExcept r).result = r := rfl

@[simp] theorem result_debug (text : String) : (debug text : Logged ε PUnit).result = .ok ⟨⟩ := rfl

@[simp] theorem result_warn (text : String) : (warn text : Logged ε PUnit).result = .ok ⟨⟩ := rfl

@[simp] theorem result_report (messages : List Message) (a : α) :
    (report messages a : Logged ε α).result = .ok a := rfl

@[simp] theorem result_mapError (f : ε → ε') (x : Logged ε α) :
    (x.mapError f).result = x.result.mapError f := rfl

@[simp] theorem result_bind (x : Logged ε α) (f : α → Logged ε β) :
    (x >>= f).result = x.result.bind fun a => (f a).result := by
  change (x.bind f).result = _
  rw [bind]
  cases x.result with
  | ok a => rfl
  | error e => rfl

theorem bind_ok_iff {x : Logged ε α} {f : α → Logged ε β} {b : β} :
    (x >>= f).result = .ok b ↔ ∃ a, x.result = .ok a ∧ (f a).result = .ok b := by
  rw [result_bind]
  cases x.result with
  | ok a => simp [Except.bind]
  | error e => simp [Except.bind]

theorem mapError_ok_iff {f : ε → ε'} {x : Logged ε α} {a : α} :
    (x.mapError f).result = .ok a ↔ x.result = .ok a := by
  rw [result_mapError]
  cases x.result with
  | ok b => exact ⟨fun same => by cases same; rfl, fun same => by cases same; rfl⟩
  | error e => exact ⟨nofun, nofun⟩

/-! ## The first fault -/

/-- Fails for a fault, if there is one. -/
def outcome (fault? : Option ε) (a : α) : Except ε α :=
  match fault? with
  | some e => .error e
  | none => .ok a

theorem outcome_eq_error_iff {fault? : Option ε} {a : α} {e : ε} :
    outcome fault? a = .error e ↔ fault? = some e := by
  cases fault? with
  | some e => simp [outcome]
  | none => simp [outcome]

theorem outcome_eq_ok_iff {fault? : Option ε} {a b : α} :
    outcome fault? a = .ok b ↔ fault? = none ∧ b = a := by
  cases fault? with
  | some e => simp [outcome]
  | none => simp [outcome, eq_comm]

theorem bind_outcome (fault? : Option ε) (a : α) (f : α → β) :
    ((outcome fault? a).bind fun b => .ok (f b)) = outcome fault? (f a) := by
  cases fault? with
  | some e => rfl
  | none => rfl

theorem mapError_outcome (f : ε → ε') (fault? : Option ε) (a : α) :
    (outcome fault? a).mapError f = outcome (fault?.map f) a := by
  cases fault? with
  | some e => rfl
  | none => rfl

/-- A pass fails for the fault of the first step that has one. -/
theorem result_forEach {f : α → Logged ε β} {g : α → β} {fault? : α → Option ε} {xs : List α}
    (each : ∀ a ∈ xs, (f a).result = outcome (fault? a) (g a)) :
    (forEach f xs).result = outcome (xs.findSome? fault?) (xs.map g) := by
  induction xs with
  | nil => rfl
  | cons a r ih =>
    have rest := ih fun b hb => each b (List.mem_cons_of_mem a hb)
    rw [forEach, result_bind, each a List.mem_cons_self, List.findSome?_cons]
    cases fault? a with
    | some e => rfl
    | none =>
      change (forEach f r >>= fun bs => Pure.pure (g a :: bs)).result = _
      rw [result_bind, rest]
      cases r.findSome? fault? with
      | some e => rfl
      | none => rfl

/-! ## Messages -/

theorem log_bind_ok {x : Logged ε α} {f : α → Logged ε β} {a : α} (h : x.result = .ok a) :
    (x >>= f).log = x.log ++ (f a).log := by
  change (x.bind f).log = _
  rw [bind, h]

theorem log_bind_error {x : Logged ε α} {f : α → Logged ε β} {e : ε} (h : x.result = .error e) :
    (x >>= f).log = x.log := by
  change (x.bind f).log = _
  rw [bind, h]

/-- What is returned in the end says nothing. -/
theorem log_bind_return (x : Logged ε α) (g : α → β) :
    (x >>= fun a => (Pure.pure (g a) : Logged ε β)).log = x.log := by
  cases outcome : x.result with
  | ok a => exact (log_bind_ok outcome).trans (List.append_nil x.log)
  | error e => exact log_bind_error outcome

/-- Where failing steps say nothing, the messages of a pass are those of the steps before its fault. -/
theorem log_forEach {f : α → Logged ε β} {g : α → β} {fault? : α → Option ε} {xs : List α}
    (each : ∀ a ∈ xs, (f a).result = outcome (fault? a) (g a))
    (silent : ∀ a ∈ xs, (fault? a).isSome = true → (f a).log = []) :
    (forEach f xs).log = (xs.takeWhile fun a => (fault? a).isNone).flatMap fun a => (f a).log := by
  induction xs with
  | nil => rfl
  | cons a r ih =>
    have rest := ih (fun b hb => each b (List.mem_cons_of_mem a hb))
      fun b hb => silent b (List.mem_cons_of_mem a hb)
    have first := each a List.mem_cons_self
    rw [forEach, List.takeWhile_cons]
    cases fault : fault? a with
    | some e =>
      have nothing := silent a List.mem_cons_self (by rw [fault]; rfl)
      rw [fault] at first
      rw [log_bind_error first, nothing]
      rfl
    | none =>
      rw [fault] at first
      rw [log_bind_ok first, log_bind_return, rest]
      rfl

end UtilityCss.Logged
