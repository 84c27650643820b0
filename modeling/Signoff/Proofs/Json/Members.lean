/-
# `Signoff.Proofs.Json.Members` — what a record is read from

Records are read from objects whose members were put in order.  Order and repetition are the
reader's business: a look-up finds the member that was written last with the key
(`Value.record?_canonical`).  The rest of this file is the small change of records: optional members,
lists of texts, counts, and lists of records, each read back from what is written for it.
-/
import Signoff.Json.Value
import Signoff.Proofs.Firsts
import Signoff.Proofs.Json.Trees

namespace Signoff.Json

namespace Value

/-! ## Members in order -/

section Order

variable {α : Type}

theorem lookup_insertMember (key k : String) (v : α) (ms : List (String × α)) :
    (insertMember key v ms).lookup k = if k = key then some v else ms.lookup k := by
  induction ms with
  | nil => rw [insertMember, lookup_cons_eq_ite]
  | cons m ms ih =>
      rw [insertMember]
      split
      · rw [lookup_cons_eq_ite]
      · split
        · rename_i hkey
          rw [lookup_cons_eq_ite, lookup_cons_eq_ite, ← hkey]
          split <;> rfl
        · rename_i hne
          rw [lookup_cons_eq_ite, ih, lookup_cons_eq_ite]
          by_cases hk : k = m.1
          · rw [if_pos hk, if_neg fun h => hne (h.symm.trans hk), if_pos hk]
          · rw [if_neg hk, if_neg hk]

/-- Of the members with a key the last one counts. -/
theorem lookup_sortMembers (k : String) (ms : List (String × α)) :
    (sortMembers ms).lookup k = ms.reverse.lookup k := by
  have hrun : ∀ acc : List (String × α),
      (ms.foldl (fun acc m => insertMember m.1 m.2 acc) acc).lookup k =
        (ms.reverse ++ acc).lookup k := by
    induction ms with
    | nil => exact fun _ => rfl
    | cons m ms ih =>
        intro acc
        rw [List.foldl_cons, ih, List.lookup_append, lookup_insertMember, List.reverse_cons,
          List.append_assoc, List.lookup_append, List.singleton_append]
        rw [lookup_cons_eq_ite]
  rw [sortMembers, hrun [], List.append_nil]

end Order

theorem canonicalItems_eq_map (items : List Value) :
    canonicalItems items = items.map canonical := by
  induction items with
  | nil => rfl
  | cons v vs ih => rw [canonicalItems, ih, List.map_cons]

theorem lookup_canonicalMembers (k : String) (ms : List (String × Value)) :
    (canonicalMembers ms).lookup k = (ms.lookup k).map canonical := by
  induction ms with
  | nil => rfl
  | cons m ms ih =>
      rw [canonicalMembers, lookup_cons_eq_ite, lookup_cons_eq_ite, ih]
      split <;> rfl

theorem reverse_canonicalMembers (ms : List (String × Value)) :
    (canonicalMembers ms).reverse = canonicalMembers ms.reverse := by
  have happend : ∀ ms ns, canonicalMembers (ms ++ ns) =
      canonicalMembers ms ++ canonicalMembers ns := by
    intro ms ns
    induction ms with
    | nil => rfl
    | cons m ms ih => rw [List.cons_append, canonicalMembers, ih, canonicalMembers, List.cons_append]
  induction ms with
  | nil => rfl
  | cons m ms ih =>
      rw [canonicalMembers, List.reverse_cons, ih, List.reverse_cons, happend]
      rfl

/-- The fields of a record as they are found in the members that were written for it. -/
def fieldOf (ms : List (String × Value)) (name : String) : Option Value :=
  (ms.reverse.lookup name).map canonical

theorem lookup_canonical (name : String) (ms : List (String × Value)) :
    (sortMembers (canonicalMembers ms)).lookup name = fieldOf ms name := by
  rw [lookup_sortMembers, reverse_canonicalMembers, lookup_canonicalMembers, fieldOf]

theorem record?_canonical (names : List String) (ms : List (String × Value)) :
    (object ms).canonical.record? names = some (fieldOf ms) := by
  rw [canonical, record?]
  congr 1
  funext name
  exact lookup_canonical name ms

/-! ## Parts of records -/

@[simp] theorem reverse_optionMember {α : Type} (name : String) (toJson : α → Value)
    (o : Option α) : (optionMember name toJson o).reverse = optionMember name toJson o := by
  cases o <;> rfl

@[simp] theorem lookup_optionMember {α : Type} (k name : String) (toJson : α → Value)
    (o : Option α) :
    (optionMember name toJson o).lookup k = if k = name then o.map toJson else none := by
  cases o with
  | none => simp [optionMember]
  | some v =>
      rw [optionMember, lookup_cons_eq_ite]
      rfl

@[simp] theorem reverse_unless {α : Type} (c : Bool) (m : String × α) :
    (if c then [] else [m]).reverse = if c then [] else [m] := by
  cases c <;> rfl

@[simp] theorem lookup_unless {α : Type} (c : Bool) (k : String) (m : String × α) :
    (if c then [] else [m]).lookup k =
      if k = m.1 then (if c then none else some m.2) else none := by
  cases c <;> simp [lookup_cons_eq_ite]

@[simp] theorem canonical_string (s : String) : (string s).canonical = string s := rfl

@[simp] theorem canonical_ofCount (n : UInt32) : (ofCount n).canonical = ofCount n := rfl

@[simp] theorem count?_ofCount (n : UInt32) : (ofCount n).count? = some n := by
  have hn : (n.toNat : Int) < UInt32.size := by
    have h := n.toNat_lt_size
    omega
  rw [ofCount, count?, if_pos ⟨by omega, hn⟩]
  simp

@[simp] theorem required_bool (b : Bool) :
    Field.required bool? (some (bool b).canonical) = some b := rfl

@[simp] theorem required_text (s : String) :
    Field.required string? (some (string s)) = some s := rfl

@[simp] theorem required_count (n : UInt32) :
    Field.required count? (some (ofCount n)) = some n := by
  rw [Field.required, Option.bind_some, count?_ofCount]

@[simp] theorem optional_text (o : Option String) :
    optional string? (o.map string) = some o := by
  cases o <;> rfl

@[simp] theorem optional_count (o : Option UInt32) :
    optional count? (o.map ofCount) = some o := by
  cases o with
  | none => rfl
  | some n =>
      rw [Option.map_some, optional, count?_ofCount, Option.map_some]
      simp [ofCount]

theorem mapM_map_canonical {α : Type} {read : Value → Option α} {toJson : α → Value}
    (hread : ∀ x, read (toJson x).canonical = some x) (xs : List α) :
    (canonicalItems (xs.map toJson)).mapM read = some xs := by
  induction xs with
  | nil => rfl
  | cons x xs ih =>
      rw [List.map_cons, canonicalItems, List.mapM_cons, hread, ih]
      rfl

@[simp] theorem strings?_ofStrings (xs : List String) :
    (ofStrings xs).canonical.strings? = some xs := by
  rw [ofStrings, canonical, strings?]
  exact mapM_map_canonical (fun _ => rfl) xs

@[simp] theorem required_texts (xs : List String) :
    Field.required strings? (some (ofStrings xs).canonical) = some xs :=
  strings?_ofStrings xs

/-! ## Parts of records that are plain -/

section Plain

variable {α : Type} {n : Nat} {toJson : α → Value}

theorem plain_ofCount (k : UInt32) : Plain n (ofCount k) := by
  have hk := k.toNat_lt_size
  have hmin : Int64.minValue.toInt ≤ 0 := by decide
  have hsize : (UInt32.size : Int) < UInt64.size := by decide
  exact .integer (by omega) (by omega)

theorem plain_map (h : ∀ x, Plain n (toJson x)) (xs : List α) :
    Plain (n + 1) (array (xs.map toJson)) := by
  refine .array fun v hv => ?_
  obtain ⟨x, -, rfl⟩ := List.mem_map.mp hv
  exact h x

theorem plain_ofStrings (xs : List String) : Plain (n + 1) (ofStrings xs) := plain_map .string xs

theorem plain_optionMember {name : String} (h : ∀ x, Plain n (toJson x)) {o : Option α} :
    ∀ m ∈ optionMember name toJson o, Plain n m.2 := by
  cases o with
  | none => exact fun m hm => nomatch hm
  | some x => exact List.forall_mem_singleton.mpr (h x)

theorem plain_unless {c : Bool} {name : String} {v : Value} (h : Plain n v) :
    ∀ m ∈ (if c then [] else [(name, v)]), Plain n m.2 := by
  cases c with
  | true => exact fun m hm => nomatch hm
  | false => exact List.forall_mem_singleton.mpr h

end Plain

end Value

end Signoff.Json
