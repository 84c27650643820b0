/-
# `Signoff.Proofs.Json.Paths` — values seen along paths

What a change leaves alone is said path by path.  `Value.at?` is what stands at the end of a path,
and `Alike` compares two values there without looking further in: a scalar is the same, and an array
or object has the same parts to go on to.  So two values that are alike along a set of paths differ,
there, in nothing.

`mapMember` is a change of one member.  It shows along the paths that go through the member, and
along these it is the change of the member itself (`alike_at?_mapMember`).
-/
import Signoff.Json.Value
import Signoff.Proofs.Firsts

namespace Signoff.Json.Value

/-- A step from a value to one of its parts. -/
inductive Step where
  | key (name : String)
  | item (index : Nat)
  deriving DecidableEq, Repr

/-- What stands at the end of a path. -/
def at? : Value → List Step → Option Value
  | v, [] => some v
  | object members, .key name :: p => (members.lookup name).bind (at? · p)
  | array items, .item index :: p => items[index]?.bind (at? · p)
  | _, _ :: _ => none

/-- The same scalar, an array of the same length, or an object with the same keys in order. -/
inductive Alike : Value → Value → Prop
  | null : Alike null null
  | bool (b : Bool) : Alike (bool b) (bool b)
  | number (n : Number) : Alike (number n) (number n)
  | string (s : String) : Alike (string s) (string s)
  | array {items items' : List Value} : items'.length = items.length →
      Alike (array items) (array items')
  | object {members members' : List (String × Value)} :
      members'.map Prod.fst = members.map Prod.fst → Alike (object members) (object members')

/-- The value, what stands under a key changed. -/
def mapMember (key : String) (f : Value → Value) : Value → Value
  | object members => object (members.map fun m => (m.1, if m.1 = key then f m.2 else m.2))
  | v => v

variable {u v w : Value} {key name : String} {f : Value → Value} {p : List Step}

theorem at?_append (v : Value) (p q : List Step) :
    v.at? (p ++ q) = (v.at? p).bind (·.at? q) := by
  induction p generalizing v with
  | nil => rfl
  | cons step p ih => cases step <;> cases v <;> simp [at?, ih, Option.bind_assoc]

theorem at?_string_cons {s : String} {step : Step} : (string s).at? (step :: p) = none := by
  cases step <;> rfl

/-! ## Values that are alike -/

namespace Alike

theorem refl : ∀ v : Value, Alike v v
  | .null => .null
  | .bool b => .bool b
  | .number n => .number n
  | .string s => .string s
  | .array _ => .array rfl
  | .object _ => .object rfl

theorem trans (h : Alike u v) (h' : Alike v w) : Alike u w := by
  cases h with
  | array hlength =>
      cases h' with
      | array hlength' => exact .array (hlength'.trans hlength)
  | object hkeys =>
      cases h' with
      | object hkeys' => exact .object (hkeys'.trans hkeys)
  | _ => exact h'

end Alike

theorem alike_at?_refl (v : Value) (p : List Step) : Option.Rel Alike (v.at? p) (v.at? p) := by
  cases v.at? p with
  | none => exact .none
  | some w => exact .some (.refl w)

theorem isSome_lookup_iff {α : Type} {members : List (String × α)} :
    (members.lookup name).isSome = true ↔ name ∈ members.map Prod.fst := by
  induction members with
  | nil => simp
  | cons m members ih =>
      rw [lookup_cons_eq_ite, List.map_cons, List.mem_cons, ← ih]
      split <;> simp [*]

theorem Alike.isSome_at?_key (h : Alike u v) (name : String) :
    (v.at? [.key name]).isSome = true ↔ (u.at? [.key name]).isSome = true := by
  cases h with
  | object hkeys => simp only [at?, Option.bind_fun_some, isSome_lookup_iff, hkeys]
  | _ => exact Iff.rfl

theorem Alike.map_at?_key (h : Alike u v) (r : Value) :
    ((v.at? [.key name]).map fun _ => r) = (u.at? [.key name]).map fun _ => r := by
  have hsome := h.isSome_at?_key name
  cases hu : u.at? [.key name] <;> cases hv : v.at? [.key name] <;> simp_all

/-! ## Changes of members -/

theorem lookup_map_snd (g : String → Value → Value) (members : List (String × Value)) :
    (members.map fun m => (m.1, g m.1 m.2)).lookup name = (members.lookup name).map (g name) := by
  induction members with
  | nil => rfl
  | cons m members ih =>
      rw [List.map_cons, lookup_cons_eq_ite, lookup_cons_eq_ite, ih]
      by_cases hname : name = m.1
      · rw [if_pos hname, if_pos hname, hname, Option.map_some]
      · rw [if_neg hname, if_neg hname]

theorem alike_mapMember (key : String) (f : Value → Value) (v : Value) :
    Alike v (mapMember key f v) := by
  cases v with
  | object members => exact .object (by simp [Function.comp_def])
  | _ => exact .refl _

theorem at?_mapMember_self :
    (mapMember key f v).at? (.key key :: p) = (v.at? [.key key]).bind fun w => (f w).at? p := by
  cases v with
  | object members =>
      rw [mapMember, at?, at?, lookup_map_snd fun k w => if k = key then f w else w]
      cases members.lookup key <;> simp [at?]
  | _ => rfl

theorem at?_mapMember_of_ne {step : Step} (hstep : step ≠ .key key) :
    (mapMember key f v).at? (step :: p) = v.at? (step :: p) := by
  cases v with
  | object members =>
      cases step with
      | item index => rfl
      | key name =>
          have hname : name ≠ key := fun h => hstep (h ▸ rfl)
          rw [mapMember, at?, lookup_map_snd fun k w => if k = key then f w else w]
          simp [at?, hname]
  | _ => rfl

/-- Along a path, a change of a member is what it is along the rest of the path that lies in the
member. -/
theorem alike_at?_mapMember
    (hf : ∀ w q, p = .key key :: q → Option.Rel Alike (w.at? q) ((f w).at? q)) :
    Option.Rel Alike (v.at? p) ((mapMember key f v).at? p) := by
  cases p with
  | nil => exact .some (alike_mapMember key f v)
  | cons step q =>
      by_cases hstep : step = .key key
      · subst hstep
        rw [at?_mapMember_self, ← List.singleton_append, at?_append]
        cases v.at? [.key key] with
        | none => exact .none
        | some w => exact hf w q rfl
      · rw [at?_mapMember_of_ne hstep]
        exact alike_at?_refl v (step :: q)

theorem mapMember_mapMember (hf : ∀ w, f (f w) = f w) (v : Value) :
    mapMember key f (mapMember key f v) = mapMember key f v := by
  cases v with
  | object members =>
      simp only [mapMember, List.map_map, Function.comp_def]
      congr 1
      refine List.map_congr_left fun m _ => ?_
      by_cases hm : m.1 = key
      · simp [hm, hf]
      · simp [hm]
  | _ => rfl

end Signoff.Json.Value
