import VoiceSkill.Event

/-!
# Results with events

A computation that can fail and reports what happens on its way. Events before a failure are kept.
-/

namespace VoiceSkill

/-- A result, and the events on the way to it. -/
structure Logged (ε α : Type) where
  result : Except ε α
  log : List Event

namespace Logged

variable {ε ε' α β : Type}

instance : Monad (Logged ε) where
  pure a := ⟨.ok a, []⟩
  bind x f :=
    match x.result with
    | .error e => ⟨.error e, x.log⟩
    | .ok a => ⟨(f a).result, x.log ++ (f a).log⟩

@[ext] theorem ext {x y : Logged ε α} (hresult : x.result = y.result) (hlog : x.log = y.log) :
    x = y := by
  cases x; cases y; cases hresult; cases hlog; rfl

theorem bind_of_ok {x : Logged ε α} {a : α} (h : x.result = .ok a) (f : α → Logged ε β) :
    x >>= f = ⟨(f a).result, x.log ++ (f a).log⟩ := by
  simp only [bind, h]

theorem bind_of_error {x : Logged ε α} {e : ε} (h : x.result = .error e) (f : α → Logged ε β) :
    x >>= f = ⟨.error e, x.log⟩ := by
  simp only [bind, h]

instance : LawfulMonad (Logged ε) := LawfulMonad.mk' (Logged ε)
  (fun x => by
    cases h : x.result with
    | error e => exact (bind_of_error h _).trans (ext h.symm rfl)
    | ok a => exact (bind_of_ok h _).trans (ext h.symm (List.append_nil _)))
  (fun _ f => bind_of_ok rfl f)
  (fun x f g => by
    cases h : x.result with
    | error e => rw [bind_of_error h, bind_of_error h, bind_of_error rfl]
    | ok a =>
      rw [bind_of_ok h, bind_of_ok h]
      cases hf : (f a).result with
      | error e => rw [bind_of_error rfl, bind_of_error hf]
      | ok b => rw [bind_of_ok rfl, bind_of_ok hf, List.append_assoc])

/-- Reports an event. -/
def report (event : Event) : Logged ε Unit := ⟨.ok (), [event]⟩

/-- Reports several events. -/
def reportAll (events : List Event) : Logged ε Unit := ⟨.ok (), events⟩

/-- A result without events. -/
def ofExcept (result : Except ε α) : Logged ε α := ⟨result, []⟩

/-- The same with the error seen as another one. -/
def mapError (f : ε → ε') (x : Logged ε α) : Logged ε' α := ⟨x.result.mapError f, x.log⟩

/-- Goes on with an action on the result, after the events so far. -/
def andThen {m : Type → Type} [Monad m] (x : Logged ε α) (f : α → m (Logged ε β)) :
    m (Logged ε β) :=
  match x.result with
  | .error e => pure ⟨.error e, x.log⟩
  | .ok a => do
    let y ← f a
    return ⟨y.result, x.log ++ y.log⟩

end Logged

end VoiceSkill
