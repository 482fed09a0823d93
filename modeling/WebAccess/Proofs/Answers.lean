import WebAccess.Service

/-!
# What inquiries and calls answer

An inquiry yields an answer and notes, a call on a service yields an answer, notes and the service
afterwards. Here the notes are forgotten: `Inquiry.answer` is what an inquiry says, `Call.answer`
and `Call.after` are what a call says and leaves behind. One equation for each way of building an
inquiry or a call lets later proofs compute with both and never open the monads again.
-/

set_option autoImplicit false

namespace WebAccess

section Except

variable {ε α β : Type}

/-- What follows a result goes on with it. -/
@[simp] theorem ok_bind (a : α) (f : α → Except ε β) : (Except.ok a >>= f) = f a := rfl

/-- What follows an error is not reached. -/
@[simp] theorem error_bind (e : ε) (f : α → Except ε β) :
    (Except.error e >>= f) = Except.error e := rfl

/-- Two computations in sequence give a result exactly if the first gives one with which the second
does. -/
theorem bind_eq_ok {x : Except ε α} {f : α → Except ε β} {b : β} :
    (x >>= f) = .ok b ↔ ∃ a, x = .ok a ∧ f a = .ok b := by
  cases x <;> simp

/-- Two computations in sequence fail exactly if the first fails, or the second fails with what the
first gave. -/
theorem bind_eq_error {x : Except ε α} {f : α → Except ε β} {e : ε} :
    (x >>= f) = .error e ↔ x = .error e ∨ ∃ a, x = .ok a ∧ f a = .error e := by
  cases x <;> simp

/-- A check in front of a computation must succeed. -/
theorem check_bind_eq_ok {x : Except ε Unit} {f : Unit → Except ε β} {b : β} :
    (x >>= f) = .ok b ↔ x = .ok () ∧ f () = .ok b := by
  cases x <;> simp

/-- A mapped computation gives a result exactly if it is the image of what the computation gives. -/
theorem map_eq_ok {x : Except ε α} {f : α → β} {b : β} :
    x.map f = .ok b ↔ ∃ a, x = .ok a ∧ f a = b := by
  cases x <;> simp [Except.map]

/-- Mapping errors leaves results as they are. -/
theorem mapError_eq_ok {ε' : Type} {x : Except ε α} {f : ε → ε'} {a : α} :
    x.mapError f = .ok a ↔ x = .ok a := by
  cases x with
  | ok b =>
    constructor
    · intro h
      exact congrArg Except.ok (Except.ok.inj h)
    · intro h
      exact congrArg Except.ok (Except.ok.inj h)
  | error e => exact iff_of_false nofun nofun

end Except

namespace Inquiry

variable {α β : Type}

/-- What an inquiry answers, without the notes. -/
def answer (x : Inquiry α) : Except Stop α := x.run.value

/-- A plain value is answered. -/
@[simp] theorem answer_pure (a : α) : answer (pure a) = .ok a := rfl

/-- Taking a note is answered. -/
@[simp] theorem answer_note (n : Note) : answer (note n) = .ok () := rfl

/-- Reporting an event is answered. -/
@[simp] theorem answer_event (e : Event) : answer (event e) = .ok () := rfl

/-- Two inquiries in sequence answer what their answers do in sequence. -/
@[simp] theorem answer_bind (x : Inquiry α) (f : α → Inquiry β) :
    answer (x >>= f) = answer x >>= fun a => answer (f a) := by
  show ((ExceptT.mk (x.run >>= ExceptT.bindCont f)).run).value = _
  simp only [answer, ExceptT.run, ExceptT.mk, Observed.value_bind]
  cases h : Observed.value x <;> rfl

end Inquiry

namespace Call

variable {α β : Type}

/-- What a call on a service answers, without the notes. -/
def answer (x : Call α) (service : Service) : Except Stop α := (x.run.run service).value.1

/-- The service after a call on it. -/
def after (x : Call α) (service : Service) : Service := (x.run.run service).value.2

variable (service : Service)

/-- A plain value is answered. -/
@[simp] theorem answer_pure (a : α) : answer (pure a) service = .ok a := rfl

/-- A plain value leaves the service as it is. -/
@[simp] theorem after_pure (a : α) : after (pure a) service = service := rfl

/-- A call that stops answers why. -/
@[simp] theorem answer_throw (stop : Stop) :
    answer (throw stop : Call α) service = .error stop := rfl

/-- A call that stops leaves the service as it is. -/
@[simp] theorem after_throw (stop : Stop) : after (throw stop : Call α) service = service := rfl

/-- Asking for the service answers it. -/
@[simp] theorem answer_get : answer (get : Call Service) service = .ok service := rfl

/-- Asking for the service leaves it as it is. -/
@[simp] theorem after_get : after (get : Call Service) service = service := rfl

/-- Replacing the service is answered. -/
@[simp] theorem answer_set (new : Service) : answer (set new : Call PUnit) service = .ok ⟨⟩ := rfl

/-- Replacing the service leaves the new one. -/
@[simp] theorem after_set (new : Service) : after (set new : Call PUnit) service = new := rfl

/-- Changing the service is answered. -/
@[simp] theorem answer_modify (f : Service → Service) :
    answer (modify f : Call PUnit) service = .ok ⟨⟩ := rfl

/-- Changing the service leaves it changed. -/
@[simp] theorem after_modify (f : Service → Service) :
    after (modify f : Call PUnit) service = f service := rfl

/-- An inquiry within a call answers what it answers by itself. -/
@[simp] theorem answer_ofInquiry (x : Inquiry α) :
    answer (ofInquiry x) service = x.answer := rfl

/-- An inquiry within a call leaves the service as it is. -/
@[simp] theorem after_ofInquiry (x : Inquiry α) : after (ofInquiry x) service = service := rfl

/-- Taking a note is answered. -/
@[simp] theorem answer_note (n : Note) : answer (note n) service = .ok () := rfl

/-- Taking a note leaves the service as it is. -/
@[simp] theorem after_note (n : Note) : after (note n) service = service := rfl

/-- Reporting an event is answered. -/
@[simp] theorem answer_event (e : Event) : answer (event e) service = .ok () := rfl

/-- Reporting an event leaves the service as it is. -/
@[simp] theorem after_event (e : Event) : after (event e) service = service := rfl

/-- The second of two calls in sequence is asked of the service that the first one leaves. -/
@[simp] theorem answer_bind (x : Call α) (f : α → Call β) :
    answer (x >>= f) service = answer x service >>= fun a => answer (f a) (after x service) := by
  show (StateT.run (ExceptT.run (x >>= f)) service).value.1 = _
  rw [ExceptT.run_bind, StateT.run_bind, Observed.value_bind]
  unfold answer after
  cases (x.run.run service).value with
  | mk a s => cases a <;> rfl

/-- A call that stops leaves the service as it is where it stopped. -/
@[simp] theorem after_bind (x : Call α) (f : α → Call β) :
    after (x >>= f) service =
      match answer x service with
      | .ok a => after (f a) (after x service)
      | .error _ => after x service := by
  show (StateT.run (ExceptT.run (x >>= f)) service).value.2 = _
  rw [ExceptT.run_bind, StateT.run_bind, Observed.value_bind]
  unfold answer after
  cases (x.run.run service).value with
  | mk a s => cases a <;> rfl

/-- A mapped call answers the image of what the call answers. -/
@[simp] theorem answer_map (f : α → β) (x : Call α) :
    answer (f <$> x) service = answer x service >>= fun a => .ok (f a) := by
  rw [map_eq_pure_bind]
  exact answer_bind service x fun a => pure (f a)

/-- A mapped call leaves the service that the call leaves. -/
@[simp] theorem after_map (f : α → β) (x : Call α) : after (f <$> x) service = after x service := by
  rw [map_eq_pure_bind, after_bind]
  cases answer x service <;> rfl

/-- Reporting a fault changes neither the answer nor the service. -/
theorem value_onFault (e : Event) (x : Call α) :
    ((onFault e x).run.run service).value = (x.run.run service).value := by
  unfold onFault
  simp only [tryCatch, tryCatchThe, MonadExceptOf.tryCatch, ExceptT.tryCatch, ExceptT.run_mk,
    StateT.run_bind, Observed.value_bind]
  show _ = (StateT.run (ExceptT.run x) service).value
  rcases h : (StateT.run (ExceptT.run x) service).value with ⟨a, s⟩
  simp only [ExceptT.run] at h
  rw [h]
  rcases a with (_ | _) | _ <;> rfl

/-- Reporting an event on a fault does not change the answer. -/
@[simp] theorem answer_onFault (e : Event) (x : Call α) :
    answer (onFault e x) service = answer x service :=
  congrArg Prod.fst (value_onFault service e x)

/-- Reporting an event on a fault does not change the service that is left. -/
@[simp] theorem after_onFault (e : Event) (x : Call α) :
    after (onFault e x) service = after x service :=
  congrArg Prod.snd (value_onFault service e x)

end Call

end WebAccess
