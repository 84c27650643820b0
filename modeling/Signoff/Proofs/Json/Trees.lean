/-
# `Signoff.Proofs.Json.Trees` — a written value reads back

Three steps lead from a written value back to the value.  The text is taken apart into the words of
its tree (`Value.ReadsAs`); the words make the tree again, whatever tree it is (`Tree.ofTokens_words`);
and the tree stands for the value with its members in order (`Value.ofTree?_tree`).  The first and the
last step are by the layout of the value, the middle one by the stack of open arrays and objects: the
words of a tree put the tree where a value was wanted.

A value is written in two layouts, on lines of its own or on one line.  They differ in the blanks
alone, so arrays and objects are read in one way for both (`readsAs_array`, `readsAs_object`).

Doubles are left aside.  `Value.Plain n` are the values that hold no number but integers of 64 bits
and are nested at most `n` deep; every such value reads back (`Value.ofText?_pretty`,
`Value.ofText?_compact`).
-/
import Signoff.Proofs.Json.Words

namespace Signoff.Json

/-! ## Trees and their words -/

namespace Tree

mutual

/-- The words of a tree. -/
def words : Tree → List Token
  | null => [.null]
  | bool b => [.bool b]
  | number n => [.number n]
  | text s => [.text s]
  | array items => .openBracket :: itemWords items ++ [.closeBracket]
  | object members => .openBrace :: memberWords members ++ [.closeBrace]

def itemWords : List Tree → List Token
  | [] => []
  | [t] => words t
  | t :: ts => words t ++ .comma :: itemWords ts

def memberWords : List (Option String × Tree) → List Token
  | [] => []
  | [(k, t)] => .text k :: .colon :: words t
  | (k, t) :: ms => .text k :: .colon :: words t ++ .comma :: memberWords ms

end

theorem itemWords_cons_cons (t u : Tree) (us : List Tree) :
    itemWords (t :: u :: us) = t.words ++ .comma :: itemWords (u :: us) := rfl

theorem memberWords_cons_cons (k : Option String) (t : Tree) (m : Option String × Tree)
    (ms : List (Option String × Tree)) :
    memberWords ((k, t) :: m :: ms) =
      .text k :: .colon :: (t.words ++ .comma :: memberWords (m :: ms)) := rfl

theorem exists_words_eq_cons (t : Tree) : ∃ w ws, t.words = w :: ws ∧ w ≠ .closeBracket := by
  cases t with
  | null => exact ⟨.null, [], rfl, nofun⟩
  | bool b => exact ⟨.bool b, [], rfl, nofun⟩
  | number n => exact ⟨.number n, [], rfl, nofun⟩
  | text s => exact ⟨.text s, [], rfl, nofun⟩
  | array items => exact ⟨.openBracket, itemWords items ++ [.closeBracket], rfl, nofun⟩
  | object members => exact ⟨.openBrace, memberWords members ++ [.closeBrace], rfl, nofun⟩

theorem foldlM_firstItem (fs : List Frame) (t : Tree) (rest : List Token) :
    (t.words ++ rest).foldlM Want.take (.firstItem fs) =
      (t.words ++ rest).foldlM Want.take (.value (.items [] :: fs)) := by
  obtain ⟨w, ws, hw, hne⟩ := t.exists_words_eq_cons
  have hstep : Want.take (.firstItem fs) w = Want.take (.value (.items [] :: fs)) w := by
    cases w <;> first | rfl | exact absurd rfl hne
  rw [hw, List.cons_append, List.foldlM_cons, List.foldlM_cons, hstep]

mutual

/-- The words of a tree put it where a value is wanted. -/
theorem foldlM_words : ∀ (t : Tree) (fs : List Frame),
    t.words.foldlM Want.take (.value fs) = some (.place t fs)
  | null, fs => rfl
  | bool b, fs => rfl
  | number n, fs => rfl
  | text s, fs => rfl
  | array [], fs => rfl
  | array (t :: ts), fs => by
      have hfirst : (itemWords (t :: ts)).foldlM Want.take (.firstItem fs) =
          (itemWords (t :: ts)).foldlM Want.take (.value (.items [] :: fs)) := by
        cases ts with
        | nil => simpa [itemWords] using foldlM_firstItem fs t []
        | cons u us => exact foldlM_firstItem fs t _
      have hopen : Want.take (.value fs) .openBracket = some (.firstItem fs) := rfl
      have hitems := foldlM_itemWords (t :: ts) [] fs (List.cons_ne_nil t ts)
      rw [words, List.cons_append, List.foldlM_cons, hopen, Option.bind_eq_bind, Option.bind_some,
        List.foldlM_append, hfirst, hitems, Option.bind_eq_bind, Option.bind_some]
      simp [Want.take]
  | object [], fs => rfl
  | object ((k, t) :: ms), fs => by
      obtain ⟨key, hmembers⟩ := foldlM_memberWords ((k, t) :: ms) [] fs (List.cons_ne_nil (k, t) ms)
      have hfirst : (memberWords ((k, t) :: ms)).foldlM Want.take (.firstKey fs) =
          (memberWords ((k, t) :: ms)).foldlM Want.take (.key [] fs) := by
        cases ms <;> rfl
      have hopen : Want.take (.value fs) .openBrace = some (.firstKey fs) := rfl
      rw [words, List.cons_append, List.foldlM_cons, hopen, Option.bind_eq_bind, Option.bind_some,
        List.foldlM_append, hfirst, hmembers, Option.bind_eq_bind, Option.bind_some]
      simp [Want.take]

theorem foldlM_itemWords : ∀ (ts before : List Tree) (fs : List Frame), ts ≠ [] →
    (itemWords ts).foldlM Want.take (.value (.items before :: fs)) =
      some (.more (.items (ts.reverse ++ before)) fs)
  | [], _, _, h => absurd rfl h
  | [t], before, fs, _ => foldlM_words t (.items before :: fs)
  | t :: u :: us, before, fs, _ => by
      have hcomma : Want.take (.more (.items (t :: before)) fs) .comma =
          some (.value (.items (t :: before) :: fs)) := rfl
      have hrest := foldlM_itemWords (u :: us) (t :: before) fs (List.cons_ne_nil u us)
      rw [itemWords_cons_cons, List.foldlM_append, foldlM_words t, Want.place, Option.bind_eq_bind,
        Option.bind_some, List.foldlM_cons, hcomma, Option.bind_eq_bind, Option.bind_some, hrest]
      simp

theorem foldlM_memberWords : ∀ (ms before : List (Option String × Tree)) (fs : List Frame),
    ms ≠ [] → ∃ key, (memberWords ms).foldlM Want.take (.key before fs) =
      some (.more (.members (ms.reverse ++ before) key) fs)
  | [], _, _, h => absurd rfl h
  | [(k, t)], before, fs, _ => ⟨k, foldlM_words t (.members before k :: fs)⟩
  | (k, t) :: m :: ms, before, fs, _ => by
      obtain ⟨key, hrest⟩ :=
        foldlM_memberWords (m :: ms) ((k, t) :: before) fs (List.cons_ne_nil m ms)
      refine ⟨key, ?_⟩
      have hkey : ∀ rest, (.text k :: .colon :: rest : List Token).foldlM Want.take
          (.key before fs) = rest.foldlM Want.take (.value (.members before k :: fs)) :=
        fun _ => rfl
      have hcomma : Want.take (.more (.members ((k, t) :: before) k) fs) .comma =
          some (.key ((k, t) :: before) fs) := rfl
      rw [memberWords_cons_cons, hkey, List.foldlM_append, foldlM_words t, Want.place,
        Option.bind_eq_bind, Option.bind_some, List.foldlM_cons, hcomma, Option.bind_eq_bind,
        Option.bind_some, hrest]
      simp

end

/-- The words of a tree make the tree again. -/
theorem ofTokens_words (t : Tree) : ofTokens t.words = some t := by
  rw [ofTokens, foldlM_words]
  rfl

end Tree

/-! ## Values and their trees -/

/-- A number as it is written; a double without a numeral is written as null. -/
def Number.tree (n : Number) : Tree :=
  match Numeral.read n.chars with
  | some (numeral, _) => .number numeral
  | none => .null

namespace Value

mutual

/-- The value as it is written. -/
def tree : Value → Tree
  | null => .null
  | bool b => .bool b
  | number n => n.tree
  | string s => .text (some s)
  | array items => .array (itemTrees items)
  | object members => .object (memberTrees members)

def itemTrees : List Value → List Tree
  | [] => []
  | v :: vs => tree v :: itemTrees vs

def memberTrees : List (String × Value) → List (Option String × Tree)
  | [] => []
  | (k, v) :: ms => (some k, tree v) :: memberTrees ms

end

/-- Nested at most `n` deep, and no numbers but integers of 64 bits, with or without sign. -/
inductive Plain : Nat → Value → Prop
  | null {n : Nat} : Plain n .null
  | bool {n : Nat} (b : Bool) : Plain n (.bool b)
  | integer {n : Nat} {k : Int} : Int64.minValue.toInt ≤ k → k < UInt64.size →
      Plain n (.number (.integer k))
  | string {n : Nat} (s : String) : Plain n (.string s)
  | array {n : Nat} {items : List Value} : (∀ v ∈ items, Plain n v) → Plain (n + 1) (.array items)
  | object {n : Nat} {members : List (String × Value)} : (∀ m ∈ members, Plain n m.2) →
      Plain (n + 1) (.object members)

theorem tree_integer (k : Int) : (number (.integer k)).tree = .number (Numeral.ofInt k) := by
  have hread : Numeral.read ((Number.integer k).chars ++ []) = some (Numeral.ofInt k, []) :=
    Numeral.read_chars k (by simp [Numeral.Ends])
  rw [List.append_nil] at hread
  rw [tree, Number.tree, hread]

/-! ## From the tree to the value -/

theorem ofItems?_itemTrees {items : List Value}
    (h : ∀ v ∈ items, ofTree? v.tree = some v.canonical) :
    ofItems? (itemTrees items) = some (canonicalItems items) := by
  induction items with
  | nil => rfl
  | cons v vs ih =>
      rw [itemTrees, ofItems?, h v List.mem_cons_self,
        ih fun w hw => h w (List.mem_cons_of_mem v hw)]
      rfl

theorem ofMembers?_memberTrees {members : List (String × Value)}
    (h : ∀ m ∈ members, ofTree? m.2.tree = some m.2.canonical) :
    ofMembers? (memberTrees members) = some (canonicalMembers members) := by
  induction members with
  | nil => rfl
  | cons m ms ih =>
      have hm := h m List.mem_cons_self
      have hms := ih fun x hx => h x (List.mem_cons_of_mem m hx)
      simp only [memberTrees, ofMembers?, hm, hms]
      rfl

/-- The tree of a value stands for the value with its members in order. -/
theorem ofTree?_tree {n : Nat} {v : Value} (h : Plain n v) : ofTree? v.tree = some v.canonical := by
  induction h with
  | null => rfl
  | bool b => rfl
  | integer hlow hhigh =>
      rw [tree_integer, ofTree?, Number.ofNumeral?_ofInt hlow hhigh]
      rfl
  | string s => rfl
  | array _ ih =>
      rw [tree, ofTree?, ofItems?_itemTrees ih]
      rfl
  | object _ ih =>
      rw [tree, ofTree?, ofMembers?_memberTrees ih]
      rfl

theorem depthOfItems_itemTrees_le {n : Nat} {items : List Value}
    (h : ∀ v ∈ items, v.tree.depth ≤ n) : Tree.depthOfItems (itemTrees items) ≤ n := by
  induction items with
  | nil => exact Nat.zero_le n
  | cons v vs ih =>
      exact Nat.max_le.mpr
        ⟨h v List.mem_cons_self, ih fun w hw => h w (List.mem_cons_of_mem v hw)⟩

theorem depthOfMembers_memberTrees_le {n : Nat} {members : List (String × Value)}
    (h : ∀ m ∈ members, m.2.tree.depth ≤ n) : Tree.depthOfMembers (memberTrees members) ≤ n := by
  induction members with
  | nil => exact Nat.zero_le n
  | cons m ms ih =>
      exact Nat.max_le.mpr
        ⟨h m List.mem_cons_self, ih fun x hx => h x (List.mem_cons_of_mem m hx)⟩

theorem depth_tree_le {n : Nat} {v : Value} (h : Plain n v) : v.tree.depth ≤ n := by
  induction h with
  | null => exact Nat.zero_le _
  | bool b => exact Nat.zero_le _
  | integer =>
      rw [tree_integer]
      exact Nat.zero_le _
  | string s => exact Nat.zero_le _
  | array _ ih => exact Nat.succ_le_succ (depthOfItems_itemTrees_le ih)
  | object _ ih => exact Nat.succ_le_succ (depthOfMembers_memberTrees_le ih)

/-! ## The words of a tree, entry by entry -/

theorem eq_intercalate {α β : Type} {sep : β} {text : List α → List β} {entry : α → List β}
    (hnil : text [] = []) (hsingle : ∀ x, text [x] = entry x)
    (hcons : ∀ x y ys, text (x :: y :: ys) = entry x ++ sep :: text (y :: ys)) (xs : List α) :
    text xs = [sep].intercalate (xs.map entry) := by
  induction xs with
  | nil => exact hnil
  | cons x xs ih =>
      cases xs with
      | nil => rw [hsingle, List.map_singleton, List.intercalate_singleton]
      | cons y ys =>
          rw [hcons, ih]
          simp only [List.map_cons, List.intercalate_cons_cons, List.append_assoc,
            List.singleton_append]

theorem itemWords_eq (ts : List Tree) :
    Tree.itemWords ts = [.comma].intercalate (ts.map Tree.words) :=
  eq_intercalate rfl (fun _ => rfl) Tree.itemWords_cons_cons ts

theorem memberWords_eq (ms : List (Option String × Tree)) :
    Tree.memberWords ms =
      [.comma].intercalate (ms.map fun m => .text m.1 :: .colon :: m.2.words) :=
  eq_intercalate rfl (fun _ => rfl) (fun m => Tree.memberWords_cons_cons m.1 m.2) ms

theorem itemTrees_eq_map (items : List Value) : itemTrees items = items.map tree := by
  induction items with
  | nil => rfl
  | cons v vs ih => rw [itemTrees, ih, List.map_cons]

theorem memberTrees_eq_map (members : List (String × Value)) :
    memberTrees members = members.map fun m => (some m.1, m.2.tree) := by
  induction members with
  | nil => rfl
  | cons m ms ih => rw [memberTrees, ih, List.map_cons]

theorem words_tree_array (items : List Value) :
    (array items).tree.words =
      .openBracket :: [.comma].intercalate (items.map fun v => v.tree.words) ++
        [.closeBracket] := by
  rw [tree, Tree.words, itemWords_eq, itemTrees_eq_map, List.map_map]
  rfl

theorem words_tree_object (members : List (String × Value)) :
    (object members).tree.words =
      .openBrace ::
        [.comma].intercalate (members.map fun m => .text (some m.1) :: .colon :: m.2.tree.words) ++
          [.closeBrace] := by
  rw [tree, Tree.words, memberWords_eq, memberTrees_eq_map, List.map_map]
  rfl

/-! ## From the text to the tree -/

section Layout

open Token (Reads)

/-- The reader takes the characters as these words, if what follows does not prolong a numeral. -/
def ReadsAs (cs : List Char) (ts : List Token) : Prop :=
  ∀ rest, Numeral.Ends rest → Reads (cs ++ rest) ts rest

variable {cs bs : List Char} {ts : List Token} {items : List Value}
  {members : List (String × Value)}

theorem ends_mark {c : Char} (hc : c ∈ [',', ']', '\x7d']) (cs : List Char) :
    Numeral.Ends (c :: cs) := by
  simp only [List.mem_cons, List.not_mem_nil, or_false] at hc
  rintro d ⟨⟩
  rcases hc with rfl | rfl | rfl <;> decide

theorem ends_blanks_append (hbs : ∀ b ∈ bs, Token.isBlank b = true) (hcs : Numeral.Ends cs) :
    Numeral.Ends (bs ++ cs) := by
  cases bs with
  | nil => exact hcs
  | cons b bs =>
      have hb := hbs b List.mem_cons_self
      simp only [Token.isBlank, Bool.or_eq_true, beq_iff_eq] at hb
      rintro c ⟨⟩
      rcases hb with ((rfl | rfl) | rfl) | rfl <;> decide

theorem isBlank_newLine (level : Nat) : ∀ b ∈ newLine level, Token.isBlank b = true := by
  intro b hb
  rcases List.mem_cons.mp hb with rfl | hb
  · rfl
  · rw [List.eq_of_mem_replicate hb]
    rfl

theorem reads_mark {c : Char} {t : Token} (hread : ∀ cs, Token.read (c :: cs) = some (t, cs))
    (hc : Token.isBlank c = false) {cs rest : List Char} {ts : List Token} (h : Reads cs ts rest) :
    Reads (c :: cs) (t :: ts) rest :=
  .word hc (hread cs) (Nat.le_refl _) h

theorem reads_quotedChars (s : String) {cs rest : List Char} {ts : List Token}
    (h : Reads cs ts rest) : Reads (quotedChars s ++ cs) (.text (some s) :: ts) rest := by
  have hread := Quoted.read_quotedChars s cs
  rw [quotedChars, List.cons_append, List.cons_append] at hread ⊢
  refine .word rfl hread ?_ h
  rw [List.length_append]
  exact Nat.le_add_left _ _

/-! ### Scalars -/

theorem readsAs_null : ReadsAs ['n', 'u', 'l', 'l'] [.null] := by
  intro rest _
  refine .word rfl rfl ?_ (.done rest)
  show rest.length ≤ rest.length + 3
  omega

theorem readsAs_boolChars (b : Bool) : ReadsAs (boolChars b) [.bool b] := by
  intro rest _
  cases b with
  | false =>
      refine .word rfl rfl ?_ (.done rest)
      show rest.length ≤ rest.length + 4
      omega
  | true =>
      refine .word rfl rfl ?_ (.done rest)
      show rest.length ≤ rest.length + 3
      omega

theorem readsAs_integer (k : Int) :
    ReadsAs (Number.integer k).chars (number (.integer k)).tree.words := by
  intro rest hrest
  have hread := Numeral.read_chars k hrest
  obtain ⟨c, cs, hcs, hc⟩ := Numeral.exists_chars_eq_cons k
  rw [tree_integer]
  rw [hcs, List.cons_append] at hread ⊢
  refine .word (Numeral.isBlank_of_start hc) ?_ ?_ (.done rest)
  · rw [Token.read_of_start hc, hread]
    rfl
  · rw [List.length_append]
    exact Nat.le_add_left _ _

theorem readsAs_string (s : String) : ReadsAs (quotedChars s) [.text (some s)] :=
  fun rest _ => reads_quotedChars s (.done rest)

/-! ### Arrays and objects

Neither layout matters here: an entry may begin with blanks, and so may the closing mark. -/

theorem ReadsAs.after_blanks (h : ReadsAs cs ts) (hbs : ∀ b ∈ bs, Token.isBlank b = true) :
    ReadsAs (bs ++ cs) ts := by
  intro rest hrest
  rw [List.append_assoc]
  exact (Reads.blanks hbs _).trans (h rest hrest)

theorem readsAs_intercalate {α : Type} {chars : α → List Char} {words : α → List Token}
    {xs : List α} (h : ∀ x ∈ xs, ReadsAs (chars x) (words x)) :
    ReadsAs ([','].intercalate (xs.map chars)) ([.comma].intercalate (xs.map words)) := by
  induction xs with
  | nil => exact fun rest _ => .done rest
  | cons x xs ih =>
      have hx := h x List.mem_cons_self
      have hxs := ih fun y hy => h y (List.mem_cons_of_mem x hy)
      cases xs with
      | nil => simpa using hx
      | cons y ys =>
          intro rest hrest
          have hcomma := reads_mark (c := ',') (t := .comma) (fun _ => rfl) rfl (hxs rest hrest)
          have hentry := (hx _ (ends_mark (by decide) _)).trans hcomma
          simpa using hentry

theorem readsAs_member (k : String) (h : ReadsAs cs ts) (bs : List Char)
    (hbs : ∀ b ∈ bs, Token.isBlank b = true) :
    ReadsAs (quotedChars k ++ ':' :: (bs ++ cs)) (.text (some k) :: .colon :: ts) := by
  intro rest hrest
  rw [List.append_assoc]
  exact reads_quotedChars k
    (reads_mark (fun _ => rfl) rfl (h.after_blanks hbs rest hrest))

theorem readsAs_array (chars : Value → List Char)
    (h : ∀ v ∈ items, ReadsAs (chars v) v.tree.words) (bs : List Char)
    (hbs : ∀ b ∈ bs, Token.isBlank b = true) :
    ReadsAs ('[' :: ([','].intercalate (items.map chars) ++ (bs ++ [']'])))
      (array items).tree.words := by
  intro rest hrest
  have hclose := reads_mark (c := ']') (t := .closeBracket) (fun _ => rfl) rfl (.done rest)
  have hends := ends_blanks_append hbs (ends_mark (c := ']') (by decide) rest)
  have hbody := (readsAs_intercalate h _ hends).trans ((Reads.blanks hbs _).trans hclose)
  have hopen := reads_mark (c := '[') (t := .openBracket) (fun _ => rfl) rfl hbody
  simpa [words_tree_array] using hopen

theorem readsAs_object (chars : String × Value → List Char)
    (h : ∀ m ∈ members, ReadsAs (chars m) (.text (some m.1) :: .colon :: m.2.tree.words))
    (bs : List Char) (hbs : ∀ b ∈ bs, Token.isBlank b = true) :
    ReadsAs ('\x7b' :: ([','].intercalate (members.map chars) ++ (bs ++ ['\x7d'])))
      (object members).tree.words := by
  intro rest hrest
  have hclose := reads_mark (c := '\x7d') (t := .closeBrace) (fun _ => rfl) rfl (.done rest)
  have hends := ends_blanks_append hbs (ends_mark (c := '\x7d') (by decide) rest)
  have hbody := (readsAs_intercalate h _ hends).trans ((Reads.blanks hbs _).trans hclose)
  have hopen := reads_mark (c := '\x7b') (t := .openBrace) (fun _ => rfl) rfl hbody
  simpa [words_tree_object] using hopen

/-! ### The two layouts -/

theorem prettyItems_eq (level : Nat) (items : List Value) :
    prettyItems level items =
      [','].intercalate (items.map fun v => newLine level ++ prettyChars level v) :=
  eq_intercalate rfl (fun _ => rfl) (fun _ _ _ => rfl) items

theorem prettyMembers_eq (level : Nat) (members : List (String × Value)) :
    prettyMembers level members =
      [','].intercalate (members.map fun m =>
        newLine level ++ (quotedChars m.1 ++ ':' :: ([' '] ++ prettyChars level m.2))) := by
  refine eq_intercalate rfl (fun m => ?_) (fun m m' ms => ?_) members
  · exact List.append_assoc (newLine level) _ _
  · exact congrArg (· ++ _) (List.append_assoc (newLine level) _ _)

theorem compactItems_eq (items : List Value) :
    compactItems items = [','].intercalate (items.map compactChars) :=
  eq_intercalate rfl (fun _ => rfl) (fun _ _ _ => rfl) items

theorem compactMembers_eq (members : List (String × Value)) :
    compactMembers members =
      [','].intercalate (members.map fun m =>
        quotedChars m.1 ++ ':' :: ([] ++ compactChars m.2)) :=
  eq_intercalate rfl (fun _ => rfl) (fun _ _ _ => rfl) members

/-- A value with one item or member a line is read as the words of its tree. -/
theorem readsAs_prettyChars {n : Nat} {v : Value} (h : Plain n v) :
    ∀ level, ReadsAs (prettyChars level v) v.tree.words := by
  induction h with
  | null => exact fun _ => readsAs_null
  | bool b => exact fun _ => readsAs_boolChars b
  | integer => exact fun _ => readsAs_integer _
  | string s => exact fun _ => readsAs_string s
  | @array n items _ ih =>
      intro level
      cases items with
      | nil => exact readsAs_array (prettyChars level) (List.forall_mem_nil _) [] nofun
      | cons v vs =>
          have harray := readsAs_array _
            (fun w hw => (ih w hw (level + 1)).after_blanks (isBlank_newLine (level + 1)))
            (newLine level) (isBlank_newLine level)
          rwa [← prettyItems_eq, ← List.cons_append, ← List.append_assoc] at harray
  | @object n members _ ih =>
      intro level
      cases members with
      | nil => exact readsAs_object (fun _ => []) (List.forall_mem_nil _) [] nofun
      | cons m ms =>
          have hmember : ∀ w ∈ m :: ms, ReadsAs
              (quotedChars w.1 ++ ':' :: ([' '] ++ prettyChars (level + 1) w.2))
              (.text (some w.1) :: .colon :: w.2.tree.words) :=
            fun w hw => readsAs_member w.1 (ih w hw (level + 1)) [' ']
              (List.forall_mem_singleton.mpr rfl)
          have hobject := readsAs_object _
            (fun w hw => (hmember w hw).after_blanks (isBlank_newLine (level + 1)))
            (newLine level) (isBlank_newLine level)
          rwa [← prettyMembers_eq, ← List.cons_append, ← List.append_assoc] at hobject

/-- A value on one line is read as the words of its tree. -/
theorem readsAs_compactChars {n : Nat} {v : Value} (h : Plain n v) :
    ReadsAs (compactChars v) v.tree.words := by
  induction h with
  | null => exact readsAs_null
  | bool b => exact readsAs_boolChars b
  | integer => exact readsAs_integer _
  | string s => exact readsAs_string s
  | array _ ih =>
      have harray := readsAs_array compactChars ih [] nofun
      rwa [← compactItems_eq, List.nil_append] at harray
  | object _ ih =>
      have hobject := readsAs_object _ (fun m hm => readsAs_member m.1 (ih m hm) [] nofun) [] nofun
      rwa [← compactMembers_eq, List.nil_append] at hobject

end Layout

theorem tree_ofText?_of_readsAs {v : Value} {cs : List Char} (hcs : ReadsAs cs v.tree.words) :
    Tree.ofText? (String.ofList cs) = some v.tree := by
  have hreads := hcs [] (by simp [Numeral.Ends])
  rw [List.append_nil] at hreads
  rw [Tree.ofText?, String.toList_ofList, hreads.ofChars, Option.bind_some, Tree.ofTokens_words]

theorem ofText?_of_readsAs {n : Nat} {v : Value} {cs : List Char} (h : Plain n v)
    (hn : n ≤ depthLimit) (hcs : ReadsAs cs v.tree.words) :
    ofText? (String.ofList cs) = some v.canonical := by
  rw [ofText?, tree_ofText?_of_readsAs hcs, Option.bind_some,
    if_pos (Nat.le_trans (depth_tree_le h) hn), ofTree?_tree h]

/-- **A written value reads back**, with its members in order. -/
theorem ofText?_pretty {n : Nat} {v : Value} (h : Plain n v) (hn : n ≤ depthLimit) :
    ofText? v.pretty = some v.canonical :=
  ofText?_of_readsAs h hn (readsAs_prettyChars h 0)

theorem ofText?_compact {n : Nat} {v : Value} (h : Plain n v) (hn : n ≤ depthLimit) :
    ofText? v.compact = some v.canonical :=
  ofText?_of_readsAs h hn (readsAs_compactChars h)

end Value

end Signoff.Json
