/-
# `Signoff.Glob.Engine` — compiling patterns

A pattern that was read is handed to an engine, which translates it to an automaton.  The program
relies on the engine to take every pattern: where one is refused, because it is nested too deep or
too large, there is no error to report, and the program stops in the middle of the call.  Which
patterns are refused is for the engine to say, so an engine is a parameter of every call that
compiles.  What the call comes to where nothing is refused is its `result`.
-/
import Signoff.Glob.Pattern

namespace Signoff

/-! ## Calls -/

/-- How a call ends: with a value, with an error, or not at all. -/
inductive Call (σ ε α : Type) where
  | ok (value : α)
  | error (e : ε)
  /-- The program stops, for the reason given. -/
  | stopped (s : σ)

namespace Call

variable {σ ε ε' α β : Type}

def ofExcept : Except ε α → Call σ ε α
  | .ok a => ok a
  | .error e => error e

protected def bind (x : Call σ ε α) (f : α → Call σ ε β) : Call σ ε β :=
  match x with
  | ok a => f a
  | error e => error e
  | stopped s => stopped s

instance : Monad (Call σ ε) where
  pure := ok
  bind := Call.bind

instance : MonadLift (Except ε) (Call σ ε) := ⟨ofExcept⟩

def mapError (f : ε → ε') : Call σ ε α → Call σ ε' α
  | ok a => ok a
  | error e => error (f e)
  | stopped s => stopped s

/-- What a call comes to that nothing can stop. -/
def result : Call Empty ε α → Except ε α
  | ok a => .ok a
  | error e => .error e

/-! ### Results -/

variable {a : α} {e : ε}

theorem ok_bind (a : α) (f : α → Call σ ε β) : ok a >>= f = f a := rfl

theorem lift_ok : (liftM (.ok a : Except ε α) : Call σ ε α) = ok a := rfl

theorem bind_eq_ok_iff {x : Call σ ε α} {f : α → Call σ ε β} {b : β} :
    x >>= f = ok b ↔ ∃ a, x = ok a ∧ f a = ok b := by
  cases x <;> simp [bind, Call.bind]

theorem mapError_eq_ok_iff {f : ε → ε'} {x : Call σ ε α} : x.mapError f = ok a ↔ x = ok a := by
  cases x <;> simp [mapError]

theorem ofExcept_eq_ok_iff {r : Except ε α} : (ofExcept r : Call σ ε α) = ok a ↔ r = .ok a := by
  cases r <;> simp [ofExcept]

theorem lift_eq_ok_iff {r : Except ε α} : (liftM r : Call σ ε α) = ok a ↔ r = .ok a :=
  ofExcept_eq_ok_iff

theorem ofExcept_eq_error_iff {r : Except ε α} :
    (ofExcept r : Call σ ε α) = error e ↔ r = .error e := by
  cases r <;> simp [ofExcept]

@[simp] theorem result_ofExcept (r : Except ε α) : (ofExcept r).result = r := by
  cases r <;> rfl

@[simp] theorem result_lift (r : Except ε α) : (liftM r : Call Empty ε α).result = r :=
  result_ofExcept r

@[simp] theorem result_pure : (pure a : Call Empty ε α).result = .ok a := rfl

@[simp] theorem result_bind (x : Call Empty ε α) (f : α → Call Empty ε β) :
    (x >>= f).result = x.result >>= fun a => (f a).result := by
  cases x with
  | ok a => rfl
  | error e => rfl
  | stopped s => cases s

@[simp] theorem result_mapError (f : ε → ε') (x : Call Empty ε α) :
    (x.mapError f).result = x.result.mapError f := by
  cases x with
  | ok a => rfl
  | error e => rfl
  | stopped s => cases s

/-! ### Agreement -/

/-- The call comes to `r`, unless it is stopped for a reason of the kind. -/
inductive Agrees (r : Except ε α) (why : σ → Prop) : Call σ ε α → Prop
  | returned : Agrees r why (ofExcept r)
  | stopped {s : σ} : why s → Agrees r why (stopped s)

namespace Agrees

variable {r : Except ε α} {why why' : σ → Prop} {x : Call σ ε α}

theorem eq_ok (h : Agrees r why x) (hx : x = ok a) : r = .ok a := by
  cases h with
  | returned => exact ofExcept_eq_ok_iff.mp hx
  | stopped hs => cases hx

theorem eq_error (h : Agrees r why x) (hx : x = error e) : r = .error e := by
  cases h with
  | returned => exact ofExcept_eq_error_iff.mp hx
  | stopped hs => cases hx

theorem of_stopped {s : σ} (h : Agrees r why x) (hx : x = .stopped s) : why s := by
  cases h with
  | returned => cases r <;> cases hx
  | stopped hs =>
      obtain rfl := Call.stopped.inj hx
      exact hs

theorem eq_ofExcept (h : Agrees r why x) (hnone : ∀ s, ¬ why s) : x = ofExcept r := by
  cases h with
  | returned => rfl
  | @stopped s hs => exact absurd hs (hnone s)

theorem mono (h : Agrees r why x) (himp : ∀ s, why s → why' s) : Agrees r why' x := by
  cases h with
  | returned => exact .returned
  | @stopped s hs => exact .stopped (himp s hs)

/-- A call in two steps is stopped by one of them. -/
theorem bind {f : α → Call σ ε β} {g : α → Except ε β} (h : Agrees r why x)
    (hrest : ∀ a, r = .ok a → Agrees (g a) why (f a)) : Agrees (r >>= g) why (x >>= f) := by
  cases h with
  | returned =>
      cases r with
      | ok a => exact hrest a rfl
      | error e => exact .returned
  | stopped hs => exact .stopped hs

theorem map {f : α → β} (h : Agrees r why x) :
    Agrees (r.map f) why (x >>= fun a => pure (f a)) := by
  cases h with
  | returned =>
      cases r with
      | ok a => exact .returned
      | error e => exact .returned
  | stopped hs => exact .stopped hs

theorem mapError {f : ε → ε'} (h : Agrees r why x) : Agrees (r.mapError f) why (x.mapError f) := by
  cases h with
  | returned =>
      cases r with
      | ok a => exact .returned
      | error e => exact .returned
  | stopped hs => exact .stopped hs

end Agrees

end Call

/-! ## Engines -/

namespace Glob

/-- What compiles patterns, or refuses to; `σ` are its refusals. -/
abbrev Engine (σ : Type) := Pattern → Except σ Unit

mutual

/-- How deep groups are nested in the piece. -/
def Piece.depth : Piece → Nat
  | .oneOf branches => deepest branches + 1
  | _ => 0

def depth : List Piece → Nat
  | [] => 0
  | p :: ps => max p.depth (depth ps)

def deepest : List (List Piece) → Nat
  | [] => 0
  | b :: bs => max (depth b) (deepest bs)

end

namespace Engine

/-- The engine that refuses nothing. -/
def tireless : Engine Empty := fun _ => .ok ()

/-- An engine that refuses a pattern whose groups are nested deeper than a limit. -/
def upTo (limit : Nat) : Engine Pattern := fun p => if depth p ≤ limit then .ok () else .error p

variable {σ : Type} {engine : Engine σ} {names : List String}

/-- The engine takes whatever is spelled by one of the names. -/
def Compiles (engine : Engine σ) (names : List String) : Prop :=
  ∀ name ∈ names, ∀ p, Pattern.ofText name = .ok p → engine p = .ok ()

/-- The engine refuses, with `s`, what is spelled by one of the names. -/
def Refuses (engine : Engine σ) (names : List String) (s : σ) : Prop :=
  ∃ name ∈ names, ∃ p, Pattern.ofText name = .ok p ∧ engine p = .error s

theorem compiles_iff : engine.Compiles names ↔ ∀ s, ¬ engine.Refuses names s := by
  constructor
  · rintro h s ⟨name, hname, p, hp, hs⟩
    rw [h name hname p hp] at hs
    cases hs
  · intro h name hname p hp
    cases hs : engine p with
    | ok u => rfl
    | error s => exact absurd ⟨name, hname, p, hp, hs⟩ (h s)

end Engine

end Glob

end Signoff
