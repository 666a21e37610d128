set_option autoImplicit false

/-!
Maps from names to values that remember the order in which their keys came. Writing to a key that
is present changes its value in place; a new key goes to the end.
-/

namespace Entitlements

namespace Pairs
variable {β : Type}

/-- Changes the value of `k` by `f`; an absent key is put at the end. -/
def alter (k : String) (f : Option β → β) : List (String × β) → List (String × β)
  | [] => [(k, f none)]
  | (l, v) :: rest => if l = k then (l, f (some v)) :: rest else (l, v) :: alter k f rest

theorem mem_keys_alter {k l : String} {f : Option β → β} {es : List (String × β)} :
    l ∈ (alter k f es).map Prod.fst ↔ l = k ∨ l ∈ es.map Prod.fst := by
  induction es with
  | nil => simp [alter]
  | cons e rest ih =>
    obtain ⟨m, v⟩ := e
    rw [alter]
    split <;> simp_all
    grind

theorem nodup_alter {k : String} {f : Option β → β} {es : List (String × β)}
    (h : (es.map Prod.fst).Nodup) : ((alter k f es).map Prod.fst).Nodup := by
  induction es with
  | nil => simp [alter]
  | cons e rest ih =>
    obtain ⟨m, v⟩ := e
    simp only [List.map_cons, List.nodup_cons] at h
    rw [alter]
    split
    · simpa using h
    · simp only [List.map_cons, List.nodup_cons, mem_keys_alter]
      exact ⟨by grind, ih h.2⟩

theorem alter_of_notMem {k : String} {f : Option β → β} {es : List (String × β)}
    (new : k ∉ es.map Prod.fst) : alter k f es = es ++ [(k, f none)] := by
  induction es with
  | nil => rfl
  | cons e rest ih =>
    obtain ⟨l, v⟩ := e
    simp only [List.map_cons, List.mem_cons, not_or] at new
    rw [alter, if_neg (Ne.symm new.1), ih new.2, List.cons_append]

theorem keys_alter_of_mem {k : String} {f : Option β → β} {es : List (String × β)}
    (old : k ∈ es.map Prod.fst) : (alter k f es).map Prod.fst = es.map Prod.fst := by
  induction es with
  | nil => exact absurd old List.not_mem_nil
  | cons e rest ih =>
    obtain ⟨l, w⟩ := e
    rw [alter]
    split
    · rfl
    · rename_i other
      rw [List.map_cons, ih ((List.mem_cons.mp old).resolve_left (Ne.symm other)), List.map_cons]

theorem alter_getD_of_mem {k : String} {v : β} {es : List (String × β)}
    (old : k ∈ es.map Prod.fst) : alter k (·.getD v) es = es := by
  induction es with
  | nil => exact absurd old List.not_mem_nil
  | cons e rest ih =>
    obtain ⟨l, w⟩ := e
    rw [alter]
    split
    · rfl
    · rename_i other
      rw [ih ((List.mem_cons.mp old).resolve_left (Ne.symm other))]

theorem lookup_eq_some_iff {κ : Type} [BEq κ] [LawfulBEq κ] {k : κ} {v : β} {es : List (κ × β)}
    (h : (es.map Prod.fst).Nodup) : es.lookup k = some v ↔ (k, v) ∈ es := by
  induction es with
  | nil => simp
  | cons e rest ih =>
    obtain ⟨l, w⟩ := e
    simp only [List.map_cons, List.nodup_cons] at h
    rw [List.lookup_cons]
    split <;> grind

theorem lookup_cons (k l : String) (v : β) (es : List (String × β)) :
    ((l, v) :: es).lookup k = if k = l then some v else es.lookup k := by
  rw [List.lookup_cons]
  split <;> simp_all

theorem lookup_alter (k l : String) (f : Option β → β) (es : List (String × β)) :
    (alter k f es).lookup l = if l = k then some (f (es.lookup k)) else es.lookup l := by
  induction es with
  | nil => rw [alter, lookup_cons]; rfl
  | cons e rest ih =>
    obtain ⟨m, v⟩ := e
    rw [alter]
    split
    · rename_i same
      subst same
      simp only [lookup_cons, if_true]
      split <;> rfl
    · rename_i other
      simp only [lookup_cons, ih, if_neg (Ne.symm other)]
      split <;> simp_all

/-- Two changes of one value are one change. -/
theorem alter_alter (k : String) (f g : Option β → β) (es : List (String × β)) :
    alter k g (alter k f es) = alter k (fun old => g (some (f old))) es := by
  induction es with
  | nil => simp [alter]
  | cons e rest ih =>
    obtain ⟨l, v⟩ := e
    by_cases same : l = k
    · simp [alter, same]
    · simp [alter, same, ih]

theorem lookup_reverse {k : String} {es : List (String × β)} (h : (es.map Prod.fst).Nodup) :
    es.reverse.lookup k = es.lookup k := by
  have h' : (es.reverse.map Prod.fst).Nodup :=
    ((List.reverse_perm es).map Prod.fst).nodup_iff.mpr h
  apply Option.ext
  intro v
  rw [lookup_eq_some_iff h', lookup_eq_some_iff h, List.mem_reverse]

/-- The pairs with each key once, at its first place and with its last value. -/
def merge (es : List (String × β)) : List (String × β) :=
  es.foldl (fun m e => alter e.1 (fun _ => e.2) m) []

end Pairs

structure OrderedMap (β : Type) where
  toList : List (String × β)
  nodup : (toList.map Prod.fst).Nodup := by simp

namespace OrderedMap
variable {β γ : Type}

instance : EmptyCollection (OrderedMap β) := ⟨{ toList := [] }⟩

instance : Inhabited (OrderedMap β) := ⟨∅⟩

def keys (m : OrderedMap β) : List String := m.toList.map Prod.fst

def values (m : OrderedMap β) : List β := m.toList.map Prod.snd

def size (m : OrderedMap β) : Nat := m.toList.length

def isEmpty (m : OrderedMap β) : Bool := m.toList.isEmpty

def get? (m : OrderedMap β) (k : String) : Option β := m.toList.lookup k

def contains (m : OrderedMap β) (k : String) : Bool := (m.get? k).isSome

def alter (m : OrderedMap β) (k : String) (f : Option β → β) : OrderedMap β :=
  ⟨Pairs.alter k f m.toList, Pairs.nodup_alter m.nodup⟩

def insert (m : OrderedMap β) (k : String) (v : β) : OrderedMap β := m.alter k fun _ => v

/-- Keeps the value of a key that is present. -/
def insertNew (m : OrderedMap β) (k : String) (v : β) : OrderedMap β := m.alter k (·.getD v)

def insertAll (m : OrderedMap β) (es : List (String × β)) : OrderedMap β :=
  es.foldl (fun m e => m.insert e.1 e.2) m

def ofList (es : List (String × β)) : OrderedMap β := insertAll ∅ es

def mapEntries (m : OrderedMap β) (f : String → β → γ) : OrderedMap γ :=
  ⟨m.toList.map fun e => (e.1, f e.1 e.2), by
    simpa [Function.comp_def] using m.nodup⟩

@[ext] theorem ext {m n : OrderedMap β} (h : m.toList = n.toList) : m = n := by
  cases m; cases n; simp_all

@[simp] theorem toList_empty : (∅ : OrderedMap β).toList = [] := rfl

@[simp] theorem keys_empty : (∅ : OrderedMap β).keys = [] := rfl

theorem nodup_keys (m : OrderedMap β) : m.keys.Nodup := m.nodup

theorem get?_eq_some_iff {m : OrderedMap β} {k : String} {v : β} :
    m.get? k = some v ↔ (k, v) ∈ m.toList := Pairs.lookup_eq_some_iff m.nodup

theorem get?_eq_none_iff {m : OrderedMap β} {k : String} : m.get? k = none ↔ k ∉ m.keys := by
  simp only [get?, keys, List.lookup_eq_none_iff, List.mem_map]
  grind

theorem contains_iff {m : OrderedMap β} {k : String} : m.contains k = true ↔ k ∈ m.keys := by
  rw [contains, Option.isSome_iff_ne_none, Ne, get?_eq_none_iff, Decidable.not_not]

@[simp] theorem toList_alter (m : OrderedMap β) (k : String) (f : Option β → β) :
    (m.alter k f).toList = Pairs.alter k f m.toList := rfl

theorem alter_alter (m : OrderedMap β) (k : String) (f g : Option β → β) :
    (m.alter k f).alter k g = m.alter k fun old => g (some (f old)) :=
  ext (Pairs.alter_alter k f g m.toList)

theorem get?_alter (m : OrderedMap β) (k l : String) (f : Option β → β) :
    (m.alter k f).get? l = if l = k then some (f (m.get? k)) else m.get? l :=
  Pairs.lookup_alter k l f m.toList

theorem get?_insert (m : OrderedMap β) (k l : String) (v : β) :
    (m.insert k v).get? l = if l = k then some v else m.get? l := get?_alter m k l _

@[simp] theorem get?_empty (k : String) : (∅ : OrderedMap β).get? k = none := rfl

/-- The last value written for a key stays. -/
theorem get?_insertAll (m : OrderedMap β) (es : List (String × β)) (k : String) :
    (m.insertAll es).get? k = (es.reverse.lookup k).or (m.get? k) := by
  induction es generalizing m with
  | nil => rfl
  | cons e es ih =>
    change ((m.insert e.1 e.2).insertAll es).get? k = _
    rw [ih, get?_insert, List.reverse_cons, List.lookup_append, Option.or_assoc,
      Pairs.lookup_cons]
    split <;> rfl

/-- What is written for a key is the same each time the key comes. -/
theorem get?_insertAll_map (m : OrderedMap β) (f : String → β) (ks : List String) (l : String) :
    (m.insertAll (ks.map fun k => (k, f k))).get? l = if l ∈ ks then some (f l) else m.get? l := by
  induction ks generalizing m with
  | nil => simp [insertAll]
  | cons k ks ih =>
    change ((m.insert k (f k)).insertAll (ks.map fun k => (k, f k))).get? l = _
    rw [ih, get?_insert]
    grind

theorem keys_alter (m : OrderedMap β) (k : String) (f : Option β → β) :
    (m.alter k f).keys = if k ∈ m.keys then m.keys else m.keys ++ [k] := by
  split
  · rename_i old
    exact Pairs.keys_alter_of_mem old
  · rename_i new
    change (Pairs.alter k f m.toList).map Prod.fst = _
    rw [Pairs.alter_of_notMem new, List.map_append]
    rfl

theorem keys_insert (m : OrderedMap β) (k : String) (v : β) :
    (m.insert k v).keys = if k ∈ m.keys then m.keys else m.keys ++ [k] := m.keys_alter k _

theorem toList_insert_of_notMem {m : OrderedMap β} {k : String} (new : k ∉ m.keys) (v : β) :
    (m.insert k v).toList = m.toList ++ [(k, v)] := Pairs.alter_of_notMem new

/-- New keys keep the order in which they come, whatever puts one entry to the end. -/
theorem toList_foldl_of_append {f : OrderedMap β → String × β → OrderedMap β}
    {m : OrderedMap β} {es : List (String × β)}
    (append : ∀ m, ∀ e ∈ es, e.1 ∉ m.keys → (f m e).toList = m.toList ++ [e])
    (nodup : (m.keys ++ es.map Prod.fst).Nodup) : (es.foldl f m).toList = m.toList ++ es := by
  induction es generalizing m with
  | nil => exact (List.append_nil _).symm
  | cons e es ih =>
    have new : e.1 ∉ m.keys := fun old =>
      (List.nodup_append.mp nodup).2.2 _ old _ List.mem_cons_self rfl
    have step := append m e List.mem_cons_self new
    have keys : (f m e).keys = m.keys ++ [e.1] := by simp [OrderedMap.keys, step]
    rw [List.foldl_cons, ih (fun m e he => append m e (List.mem_cons_of_mem _ he))
      (by simpa [keys] using nodup), step, List.append_assoc, List.singleton_append]

theorem toList_insertAll {m : OrderedMap β} {es : List (String × β)}
    (nodup : (m.keys ++ es.map Prod.fst).Nodup) : (m.insertAll es).toList = m.toList ++ es :=
  toList_foldl_of_append (fun _ e _ new => toList_insert_of_notMem new e.2) nodup

theorem toList_ofList {es : List (String × β)} (nodup : (es.map Prod.fst).Nodup) :
    (ofList es).toList = es := toList_insertAll nodup

theorem merge_of_nodup {es : List (String × β)} (nodup : (es.map Prod.fst).Nodup) :
    Pairs.merge es = es := by
  have same : Pairs.merge es = (ofList es).toList := by
    change es.foldl _ (∅ : OrderedMap β).toList = _
    exact List.foldl_hom toList fun _ _ => rfl
  rw [same, toList_ofList nodup]

/-- Keys that are present stay as they are; the others come to the end. -/
theorem toList_foldl_insertNew (m : OrderedMap β) {ks : List String} (nodup : ks.Nodup) (v : β) :
    (ks.foldl (·.insertNew · v) m).toList =
      m.toList ++ (ks.filter (· ∉ m.keys)).map (·, v) := by
  induction ks generalizing m with
  | nil => simp
  | cons k ks ih =>
    obtain ⟨fresh, nodup⟩ := List.nodup_cons.mp nodup
    rw [List.foldl_cons, ih _ nodup]
    by_cases old : k ∈ m.keys
    · have same : m.insertNew k v = m := ext (Pairs.alter_getD_of_mem old)
      rw [same, List.filter_cons_of_neg (by simpa using old)]
    · have step : (m.insertNew k v).toList = m.toList ++ [(k, v)] := Pairs.alter_of_notMem old
      have keys : (m.insertNew k v).keys = m.keys ++ [k] := by simp [OrderedMap.keys, step]
      have rest : ks.filter (· ∉ (m.insertNew k v).keys) = ks.filter (· ∉ m.keys) := by
        apply List.filter_congr
        intro l hl
        simp [keys, ne_of_mem_of_not_mem hl fresh]
      rw [rest, step, List.filter_cons_of_pos (by simpa using old)]
      simp

/-- The entries are the keys with their values. -/
theorem toList_eq_map_keys (m : OrderedMap β) (f : String → β)
    (h : ∀ k v, m.get? k = some v → f k = v) : m.toList = m.keys.map fun k => (k, f k) := by
  rw [keys, List.map_map, List.map_congr_left (g := id) fun e he => ?_, List.map_id]
  exact Prod.ext rfl (h e.1 e.2 (get?_eq_some_iff.mpr he))

@[simp] theorem toList_mapEntries (m : OrderedMap β) (f : String → β → γ) :
    (m.mapEntries f).toList = m.toList.map fun e => (e.1, f e.1 e.2) := rfl

end OrderedMap

end Entitlements
