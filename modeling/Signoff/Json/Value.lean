/-
# `Signoff.Json.Value` — JSON values

What a JSON text means, once its spelling is left aside.  Integers of 64 bits stay exact and all
other numbers are doubles, held by their bits; a value of another origin may hold greater integers
(`Value.isNarrow`).  The members of an object that was read stand in the order of their keys.
-/

namespace Signoff.Json

/-- A number: an integer, or a double given by its bits. -/
inductive Number where
  | integer (n : Int)
  | double (bits : UInt64)
  deriving DecidableEq, Repr

/-- A JSON value. -/
inductive Value where
  | null
  | bool (b : Bool)
  | number (n : Number)
  | string (s : String)
  | array (items : List Value)
  | object (members : List (String × Value))
  deriving Repr

namespace Value

instance : Inhabited Value := ⟨null⟩

/-! ## Equality -/

mutual

def decEq : (a b : Value) → Decidable (a = b)
  | null, null => isTrue rfl
  | bool a, bool b => if h : a = b then isTrue (h ▸ rfl) else isFalse fun e => h (by injection e)
  | number a, number b => if h : a = b then isTrue (h ▸ rfl) else isFalse fun e => h (by injection e)
  | string a, string b => if h : a = b then isTrue (h ▸ rfl) else isFalse fun e => h (by injection e)
  | array a, array b =>
    match decEqItems a b with
    | isTrue h => isTrue (h ▸ rfl)
    | isFalse h => isFalse fun e => h (by injection e)
  | object a, object b =>
    match decEqMembers a b with
    | isTrue h => isTrue (h ▸ rfl)
    | isFalse h => isFalse fun e => h (by injection e)
  | null, bool _ | null, number _ | null, string _ | null, array _ | null, object _
  | bool _, null | bool _, number _ | bool _, string _ | bool _, array _ | bool _, object _
  | number _, null | number _, bool _ | number _, string _ | number _, array _
  | number _, object _
  | string _, null | string _, bool _ | string _, number _ | string _, array _
  | string _, object _
  | array _, null | array _, bool _ | array _, number _ | array _, string _ | array _, object _
  | object _, null | object _, bool _ | object _, number _ | object _, string _
  | object _, array _ => isFalse nofun

def decEqItems : (a b : List Value) → Decidable (a = b)
  | [], [] => isTrue rfl
  | [], _ :: _ => isFalse nofun
  | _ :: _, [] => isFalse nofun
  | a :: as, b :: bs =>
    match decEq a b, decEqItems as bs with
    | isTrue h, isTrue hs => isTrue (by rw [h, hs])
    | isFalse h, _ => isFalse fun e => h (by injection e)
    | _, isFalse h => isFalse fun e => h (by injection e)

def decEqMembers : (a b : List (String × Value)) → Decidable (a = b)
  | [], [] => isTrue rfl
  | [], _ :: _ => isFalse nofun
  | _ :: _, [] => isFalse nofun
  | (j, a) :: as, (k, b) :: bs =>
    match decEq a b, decEqMembers as bs with
    | isTrue h, isTrue hs =>
      if hk : j = k then isTrue (by rw [hk, h, hs])
      else isFalse fun e => hk (by injection e with e; injection e)
    | isFalse h, _ => isFalse fun e => h (by injection e with e; injection e)
    | _, isFalse h => isFalse fun e => h (by injection e)

end

instance : DecidableEq Value := decEq

/-! ## Members in order -/

/-- One more member; it takes the place of one with the same key. -/
def insertMember (key : String) (v : α) : List (String × α) → List (String × α)
  | [] => [(key, v)]
  | (k, w) :: ms =>
    if key < k then (key, v) :: (k, w) :: ms
    else if key = k then (key, v) :: ms
    else (k, w) :: insertMember key v ms

/-- The members in the order of their keys; of several with one key the last stays. -/
def sortMembers (ms : List (String × α)) : List (String × α) :=
  ms.foldl (fun acc m => insertMember m.1 m.2 acc) []

mutual

/-- The value with all members in the order of their keys. -/
def canonical : Value → Value
  | array items => array (canonicalItems items)
  | object members => object (sortMembers (canonicalMembers members))
  | v => v

def canonicalItems : List Value → List Value
  | [] => []
  | v :: vs => canonical v :: canonicalItems vs

def canonicalMembers : List (String × Value) → List (String × Value)
  | [] => []
  | (k, v) :: ms => (k, canonical v) :: canonicalMembers ms

end

/-! ## Width -/

mutual

/-- Do 64 bits, with or without sign, hold every integer in the value? -/
def isNarrow : Value → Bool
  | number (.integer n) => Int64.minValue.toInt ≤ n && n < UInt64.size
  | array items => areNarrow items
  | object members => membersAreNarrow members
  | _ => true

def areNarrow : List Value → Bool
  | [] => true
  | v :: vs => isNarrow v && areNarrow vs

def membersAreNarrow : List (String × Value) → Bool
  | [] => true
  | (_, v) :: ms => isNarrow v && membersAreNarrow ms

end

/-! ## Parts -/

def get? (key : String) : Value → Option Value
  | object members => members.lookup key
  | _ => none

def string? : Value → Option String
  | string s => some s
  | _ => none

def bool? : Value → Option Bool
  | bool b => some b
  | _ => none

def count? : Value → Option UInt32
  | number (.integer n) =>
    if 0 ≤ n ∧ n < UInt32.size then some (UInt32.ofNat n.toNat) else none
  | _ => none

def items? : Value → Option (List Value)
  | array items => some items
  | _ => none

def strings? (v : Value) : Option (List String) := v.items?.bind (·.mapM string?)

/-- The fields of a record, by name.  A record may also be written as the array of its fields,
which may stop early but not go on after the last one. -/
def record? (names : List String) : Value → Option (String → Option Value)
  | object members => some fun n => members.lookup n
  | array items =>
    if items.length ≤ names.length then some fun n => (names.zip items).lookup n else none
  | _ => none

/-- A field that may be left out or null. -/
def optional (read : Value → Option β) : Option Value → Option (Option β)
  | none => some none
  | some null => some none
  | some v => (read v).map some

/-! ## Building -/

def ofCount (n : UInt32) : Value := number (.integer n.toNat)

/-- A member for an option, if it is given. -/
def optionMember (name : String) (toJson : α → Value) : Option α → List (String × Value)
  | none => []
  | some v => [(name, toJson v)]

def ofStrings (xs : List String) : Value := array (xs.map string)

end Value

end Signoff.Json

namespace Signoff.Json.Field

/-! ## Fields that may be missing -/

/-- A field that has to be given. -/
def required (read : α → Option β) (field : Option α) : Option β := field.bind read

/-- A field that stands for `default` when it is left out. -/
def orElse (default : β) (read : α → Option β) : Option α → Option β
  | none => some default
  | some v => read v

end Signoff.Json.Field
