import Entitlements.Proofs.Definition

set_option autoImplicit false

/-!
Values leaf by leaf. The first leaf that is no string is the one that a refusal tells, with the way
to it; without such a leaf the strings are the tokens, and opening a definition into entries loses
none of them.
-/

namespace Entitlements

namespace Json

/-- Numbers, booleans and nulls have no place in a definition. -/
def unreadable : Json → Bool
  | .null | .bool _ | .number _ => true
  | _ => false

def string? : Json → Option String
  | .string s => some s
  | _ => none

mutual

/-- The leaves in document order, each with the text of the way to it. -/
def leavesFrom (path : String) : Json → List (String × Json)
  | .array vs => itemLeaves path 0 vs
  | .object ms => memberLeaves path ms
  | v => [(path, v)]

def itemLeaves (path : String) (i : Nat) : List Json → List (String × Json)
  | [] => []
  | v :: vs => leavesFrom (path ++ "[" ++ i.repr ++ "]") v ++ itemLeaves path (i + 1) vs

def memberLeaves (path : String) : List (String × Json) → List (String × Json)
  | [] => []
  | (k, v) :: ms => leavesFrom (path ++ "." ++ k) v ++ memberLeaves path ms

end

def leaves (v : Json) : List (String × Json) := v.leavesFrom "$"

end Json

namespace Definition

/-- What a reading behind `path` refuses: where it stands, and what it is. -/
def refusedAt {α : Type} (path : String) : Except Refusal α → Option (String × Json.Kind)
  | .ok _ => none
  | .error r => some (path ++ String.join (r.path.map Step.text), r.found)

section Refused
variable {α β : Type} (path : String)

theorem refusedAt_map (f : α → β) (x : Except Refusal α) :
    refusedAt path (x.map f) = refusedAt path x := by cases x <;> rfl

theorem refusedAt_behind (s : Step) (x : Except Refusal α) :
    refusedAt path (x.mapError (.behind s)) = refusedAt (path ++ s.text) x := by
  cases x with
  | ok a => rfl
  | error r =>
    change refusedAt path (.error (r.behind s) : Except Refusal α) = _
    simp [refusedAt, Refusal.behind, String.append_assoc]

/-- Of two readings in a row the first refusal counts. -/
theorem refusedAt_bind {γ : Type} (x : Except Refusal α) (y : Except Refusal β) (f : α → β → γ) :
    refusedAt path (do let a ← x; return f a (← y)) =
      (refusedAt path x).or (refusedAt path y) := by
  cases x <;> cases y <;> rfl

end Refused

/-- The first leaf that is no string. -/
def firstUnreadable (leaves : List (String × Json)) : Option (String × Json.Kind) :=
  (leaves.find? fun l => l.2.unreadable).map fun l => (l.1, l.2.kind)

theorem firstUnreadable_append (xs ys : List (String × Json)) :
    firstUnreadable (xs ++ ys) = (firstUnreadable xs).or (firstUnreadable ys) := by
  rw [firstUnreadable, List.find?_append, Option.map_or]
  rfl

mutual

theorem refusedAt_ofJson (path : String) : (v : Json) →
    refusedAt path (ofJson v) = firstUnreadable (v.leavesFrom path)
  | .array vs => by
    rw [ofJson, refusedAt_map, refusedAt_ofItems path 0 vs, Json.leavesFrom]
  | .object ms => by
    rw [ofJson, refusedAt_map, refusedAt_ofMembers path ms, Json.leavesFrom]
  | .string s => rfl
  | .null | .bool _ | .number _ => by
    simp [ofJson, refusedAt, firstUnreadable, Json.leavesFrom, Json.unreadable, Json.kind]

theorem refusedAt_ofItems (path : String) (i : Nat) : (vs : List Json) →
    refusedAt path (ofItems i vs) = firstUnreadable (Json.itemLeaves path i vs)
  | [] => rfl
  | v :: vs => by
    have step : path ++ (Step.item i).text = path ++ "[" ++ i.repr ++ "]" := by
      simp [Step.text, Nat.repr, String.append_assoc]
    rw [ofItems, refusedAt_bind, refusedAt_behind, step, Json.itemLeaves, firstUnreadable_append,
      refusedAt_ofJson _ v, refusedAt_ofItems path (i + 1) vs]

theorem refusedAt_ofMembers (path : String) : (ms : List (String × Json)) →
    refusedAt path (ofMembers ms) = firstUnreadable (Json.memberLeaves path ms)
  | [] => rfl
  | (k, v) :: ms => by
    have step : path ++ (Step.member k).text = path ++ "." ++ k := by
      simp [Step.text, String.append_assoc]
    rw [ofMembers, refusedAt_bind, refusedAt_behind, step, Json.memberLeaves,
      firstUnreadable_append, refusedAt_ofJson _ v, refusedAt_ofMembers path ms]

end

/-- The message of a refusal names the first leaf that is no string. -/
theorem message_of_ofJson {v : Json} {r : Refusal} (h : ofJson v = .error r) :
    ∃ path leaf, v.leaves.find? (·.2.unreadable) = some (path, leaf) ∧
      r.message = path ++ ": expected a string, list or object, found " ++ leaf.kind.name := by
  have first := refusedAt_ofJson "$" v
  rw [h, refusedAt, eq_comm, firstUnreadable, Option.map_eq_some_iff] at first
  obtain ⟨⟨path, leaf⟩, found, same⟩ := first
  obtain ⟨way, kind⟩ := Prod.mk.inj same
  refine ⟨path, leaf, found, ?_⟩
  rw [Refusal.message, ← way, ← kind]

theorem ofJson_fails_iff {v : Json} :
    (∃ r, ofJson v = .error r) ↔ ∃ l ∈ v.leaves, l.2.unreadable = true := by
  constructor
  · rintro ⟨r, failed⟩
    obtain ⟨path, leaf, found, -⟩ := message_of_ofJson failed
    exact ⟨(path, leaf), List.mem_of_find?_eq_some found, by simpa using List.find?_some found⟩
  · rintro ⟨l, hl, bad⟩
    cases read : ofJson v with
    | error r => exact ⟨r, rfl⟩
    | ok d =>
      have first := refusedAt_ofJson "$" v
      rw [read, refusedAt, eq_comm, firstUnreadable, Option.map_eq_none_iff,
        List.find?_eq_none] at first
      exact absurd bad (first l hl)

mutual

theorem tokens_of_ofJson (path : String) : {v : Json} → {d : Definition} → ofJson v = .ok d →
    d.tokens = (v.leavesFrom path).filterMap (·.2.string?)
  | .string s, _, h => by
    cases h
    rfl
  | .array vs, _, h => by
    obtain ⟨ds, read, rfl⟩ := exists_of_map_eq_ok h
    rw [tokens, Json.leavesFrom, tokens_of_ofItems path read]
  | .object ms, _, h => by
    obtain ⟨es, read, rfl⟩ := exists_of_map_eq_ok h
    rw [tokens, Json.leavesFrom, tokens_of_ofMembers path read]
  | .null, _, h | .bool _, _, h | .number _, _, h => nomatch h

theorem tokens_of_ofItems (path : String) : {i : Nat} → {vs : List Json} →
    {ds : List Definition} → ofItems i vs = .ok ds →
    tokensOfItems ds = (Json.itemLeaves path i vs).filterMap (·.2.string?)
  | _, [], _, h => by
    cases h
    rfl
  | _, v :: vs, _, h => by
    obtain ⟨d, first, h⟩ := exists_of_bind_eq_ok h
    obtain ⟨ds, rest, h⟩ := exists_of_bind_eq_ok h
    cases h
    rw [tokensOfItems, Json.itemLeaves, List.filterMap_append,
      tokens_of_ofJson _ (eq_ok_of_mapError first), tokens_of_ofItems path rest]

theorem tokens_of_ofMembers (path : String) : {ms : List (String × Json)} →
    {es : List (Key × Definition)} → ofMembers ms = .ok es →
    tokensOfEntries es = (Json.memberLeaves path ms).filterMap (·.2.string?)
  | [], _, h => by
    cases h
    rfl
  | (k, v) :: ms, _, h => by
    obtain ⟨d, first, h⟩ := exists_of_bind_eq_ok h
    obtain ⟨es, rest, h⟩ := exists_of_bind_eq_ok h
    cases h
    rw [tokensOfEntries, Json.memberLeaves, List.filterMap_append,
      tokens_of_ofJson _ (eq_ok_of_mapError first), tokens_of_ofMembers path rest]

end

theorem tokensOfEntries_eq (es : List (Key × Definition)) :
    tokensOfEntries es = es.flatMap fun e => e.2.tokens := by
  induction es with
  | nil => rfl
  | cons e es ih =>
    obtain ⟨k, d⟩ := e
    rw [tokensOfEntries, List.flatMap_cons, ih]

theorem flatMap_tokens_itemEntries (i : Nat) (ds : List Definition) :
    ((itemEntries i ds).flatMap fun e => e.2.tokens) = tokensOfItems ds := by
  fun_induction itemEntries i ds with
  | case1 i => rfl
  | case2 i es ds ih =>
    rw [List.flatMap_append, ih, tokensOfItems, tokens, tokensOfEntries_eq]
  | case3 i d ds _ ih => rw [List.flatMap_cons, ih, tokensOfItems]

/-- Entries keep every leaf of their definition, in order. -/
theorem flatMap_tokens_entries (d : Definition) :
    (d.entries.flatMap fun e => e.2.tokens) = d.tokens := by
  cases d with
  | scalar s => rfl
  | list ds => exact flatMap_tokens_itemEntries 0 ds
  | mapping es => exact (tokensOfEntries_eq es).symm

/-- The entries that an element of a list becomes: an object its members, any other value one entry
under the next position. -/
def elementEntries (next : Nat) : Json → List (Key × Definition)
  | .object ms => ms.map fun m => (Key.ofString m.1, authored m.2)
  | v => [(.position next, authored v)]

/-- How many of the values are no objects. -/
def countPlain (vs : List Json) : Nat := vs.countP (·.kind ≠ .object)

theorem itemEntries_cons {v : Json} (textual : v.Textual) (i : Nat) (ds : List Definition) :
    itemEntries i (authored v :: ds) =
      elementEntries i v ++ itemEntries (i + countPlain [v]) ds := by
  cases textual with
  | string s => rfl
  | array items =>
    have read := authored_of_ok (ofJson_array fun w hw => ofJson_of_textual (items w hw))
    rw [elementEntries, read]
    · rfl
    · simp
  | object members =>
    have read := authored_of_ok (ofJson_object fun m hm => ofJson_of_textual (members m hm))
    rw [read]
    rfl

/-- The plain elements are numbered in a row, whatever objects stand between them. -/
theorem itemEntries_authored {vs : List Json} (textual : ∀ v ∈ vs, v.Textual) (i : Nat) :
    itemEntries i (vs.map authored) =
      (vs.mapIdx fun j v => elementEntries (i + countPlain (vs.take j)) v).flatten := by
  induction vs generalizing i with
  | nil => rfl
  | cons v vs ih =>
    obtain ⟨first, rest⟩ := List.forall_mem_cons.mp textual
    have later (j : Nat) : i + countPlain ((v :: vs).take (j + 1)) =
        i + countPlain [v] + countPlain (vs.take j) := by
      rw [List.take_succ_cons, countPlain, ← List.singleton_append, List.countP_append,
        Nat.add_assoc]
      rfl
    rw [List.map_cons, itemEntries_cons first, ih rest, List.mapIdx_cons, List.flatten_cons]
    simp only [later]
    rfl

theorem entries_of_array {vs : List Json} {d : Definition} (h : ofJson (.array vs) = .ok d) :
    d.entries = (vs.mapIdx fun j v => elementEntries (countPlain (vs.take j)) v).flatten := by
  obtain ⟨textual, rfl⟩ := ofJson_eq_ok_iff.mp h
  cases textual with
  | array items =>
    rw [authored_of_ok (ofJson_array fun w hw => ofJson_of_textual (items w hw)), entries,
      itemEntries_authored items]
    simp only [Nat.zero_add]

/-- A value is refused just when some leaf is a number, boolean or null, and the refusal tells the
first of them and the way to it. Otherwise the tokens are the strings at the leaves, and the entries
have the same tokens; those of a list are numbered by its elements other than objects. -/
theorem reads_leaf_by_leaf (v : Json) :
    ((∃ r, ofJson v = .error r) ↔ ∃ l ∈ v.leaves, l.2.unreadable = true) ∧
    (∀ r, ofJson v = .error r → ∃ path leaf,
      v.leaves.find? (·.2.unreadable) = some (path, leaf) ∧ r.message = path ++
        ": expected a string, list or object, found " ++ leaf.kind.name) ∧
    ∀ d, ofJson v = .ok d →
      d.tokens = v.leaves.filterMap (·.2.string?) ∧
      (d.entries.flatMap fun e => e.2.tokens) = d.tokens ∧
      ∀ vs, v = .array vs → d.entries =
        (vs.mapIdx fun j w => elementEntries (countPlain (vs.take j)) w).flatten := by
  refine ⟨ofJson_fails_iff, fun r => message_of_ofJson, fun d read => ⟨tokens_of_ofJson "$" read,
    flatMap_tokens_entries d, ?_⟩⟩
  rintro vs rfl
  exact entries_of_array read

/-- Two leaves that are no strings, the first of them inside a list under a key; and a list with an
object between its other elements. -/
theorem reads_leaf_by_leaf_users :
    let bad : Json := .object [("users", .array [.string "read", .ofNat 5]), ("posts", .null)]
    let good : List Json := [.string "users", .object [("posts", .string "pin"), ("7", .array [])],
      .array [.string "roles", .string "tags"]]
    (∃ r, ofJson bad = .error r ∧
      r.message = "$.users[1]: expected a string, list or object, found number") ∧
    ∃ d, ofJson (.array good) = .ok d ∧ d.tokens = ["users", "pin", "roles", "tags"] ∧
      d.entries.map Prod.fst = [.position 0, .name "posts", .position 7, .position 1] := by
  intro bad good
  obtain ⟨fails, message, -⟩ := reads_leaf_by_leaf bad
  obtain ⟨-, -, reads⟩ := reads_leaf_by_leaf (.array good)
  constructor
  · have leaves : bad.leaves =
        [("$.users[0]", .string "read"), ("$.users[1]", .ofNat 5), ("$.posts", .null)] := rfl
    obtain ⟨r, failed⟩ := fails.mpr ⟨("$.users[1]", .ofNat 5), by simp [leaves], rfl⟩
    obtain ⟨path, leaf, found, text⟩ := message r failed
    rw [leaves] at found
    cases found
    exact ⟨r, failed, text⟩
  · have read : ofJson (.array good) = .ok (authored (.array good)) := rfl
    obtain ⟨tokens, -, entries⟩ := reads _ read
    exact ⟨_, read, tokens, (congrArg (List.map Prod.fst) (entries good rfl)).trans rfl⟩

end Definition

end Entitlements
