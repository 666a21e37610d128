import Entitlements.Proofs.Json.Ends

set_option autoImplicit false

/-!
Printed texts read again. Wherever a value may stand, the reader takes the text of a value and goes
on behind it; so strings in arrays and objects come back as they were printed.
-/

namespace Entitlements.Json

/-- Strings in arrays and objects, at most `levels` of them inside each other, and no key twice in
one object. -/
inductive Plain : Nat → Json → Prop
  | string {levels : Nat} (s : String) : Plain levels (.string s)
  | array {levels : Nat} {vs : List Json} (items : ∀ v ∈ vs, Plain levels v) :
    Plain (levels + 1) (.array vs)
  | object {levels : Nat} {ms : List (String × Json)} (distinct : (ms.map Prod.fst).Nodup)
    (members : ∀ m ∈ ms, Plain levels m.2) : Plain (levels + 1) (.object ms)

theorem plain_ofStrings (levels : Nat) (names : List String) :
    Plain (levels + 1) (ofStrings names) := by
  apply Plain.array
  intro v hv
  obtain ⟨name, -, rfl⟩ := List.mem_map.mp hv
  exact .string name

theorem readToken?_quote (s : String) : ∃ ps, decodeString? ps = some s ∧
    ∀ rest, readToken? (quote s ++ rest) = some (.string ps, rest) := by
  obtain ⟨ps, decoded, read⟩ := exists_pieces s.toList
  refine ⟨ps, ?_, fun rest => ?_⟩
  · rw [decodeString?, decoded, Option.map_some, String.ofList_toList]
  · have text : quote s ++ rest = '"' :: (s.toList.flatMap escapeChar ++ '"' :: rest) := by
      simp [quote]
    rw [text]
    change (readPieces? _).map _ = _
    rw [read]
    rfl

/-- Behind a complete value reading goes on with what is unfinished. -/
def resume (w : Written) (stack : List Frame) (rest : List Char) : Option (Written × List Char) :=
  match finish w stack with
  | .inl w => some (w, rest)
  | .inr s => s.run rest

/-- Here a value may start, which belongs to the innermost frame. -/
def State.Starts (s : State) (stack : List Frame) : Prop :=
  ∀ t, t ≠ .closeArray → s.step t = start stack t

/-- Wherever a value may start, the text is read as this value and no further. -/
def Written.Reads (w : Written) (text : List Char) : Prop :=
  ∀ (s : State) (stack : List Frame) (rest : List Char), s.Starts stack →
    s.run (text ++ rest) = resume w stack rest

/-- What is read from the text of the value stands for the value. -/
def ReadsBack (levels : Nat) (v : Json) : Prop :=
  ∃ w : Written, w.decode? levels = some v ∧ w.Reads v.print

namespace State
variable {s s' : State} {t : Token} {cs rest : List Char} {w : Written} {stack : List Frame}

theorem starts_value (stack : List Frame) : (value stack).Starts stack := fun _ _ => rfl

theorem starts_firstItem (stack : List Frame) : (firstItem stack).Starts (.items [] :: stack) := by
  intro t other
  cases t with
  | closeArray => exact absurd rfl other
  | _ => rfl

theorem run_of_finish (read : readToken? cs = some (t, rest))
    (done : s.step t = some (finish w stack)) : s.run cs = resume w stack rest := by
  unfold resume
  split
  · rename_i whole
    exact run_of_done read (done.trans (congrArg some whole))
  · rename_i more
    exact run_of_more read (done.trans (congrArg some more))

end State

theorem readsBack_string {levels : Nat} (s : String) : ReadsBack levels (.string s) := by
  obtain ⟨ps, decoded, read⟩ := readToken?_quote s
  refine ⟨.string ps, ?_, fun state stack rest starts => ?_⟩
  · rw [Written.decode?, decoded, Option.map_some]
  · exact State.run_of_finish (read rest) (starts _ nofun)

section Parts
variable {levels : Nat}

theorem printItems_cons (v : Json) (vs : List Json) :
    printItems (v :: vs) = v.print ++ vs.flatMap (',' :: ·.print) := by
  induction vs generalizing v with
  | nil => simp [printItems]
  | cons u vs ih => rw [printItems, ih, List.flatMap_cons, List.cons_append]; simp

/-- By induction on the items: each comes behind a comma and goes onto those before it. -/
theorem exists_items {vs : List Json}
    (each : ∀ v ∈ vs, ReadsBack levels v) :
    ∃ ws, decodeItems? levels ws = some vs ∧
      ∀ (before : List Written) (stack : List Frame) (rest : List Char),
        (State.nextItem before stack).run (vs.flatMap (',' :: ·.print) ++ ']' :: rest) =
          resume (.array (before.reverse ++ ws)) stack rest := by
  induction vs with
  | nil =>
    refine ⟨[], rfl, fun before stack rest => ?_⟩
    rw [List.append_nil]
    exact State.run_of_finish rfl rfl
  | cons v vs ih =>
    obtain ⟨⟨w, decoded, reads⟩, later⟩ := List.forall_mem_cons.mp each
    obtain ⟨ws, decodedRest, readsRest⟩ := ih later
    refine ⟨w :: ws, ?_, fun before stack rest => ?_⟩
    · rw [decodeItems?, decoded, Option.bind_some, decodedRest, Option.map_some]
    · have comma (cs : List Char) : (State.nextItem before stack).run (',' :: cs) =
          (State.value (.items before :: stack)).run cs := State.run_of_more rfl rfl
      have own := readsRest (w :: before) stack rest
      rw [List.reverse_cons, List.append_assoc, List.singleton_append] at own
      rw [List.flatMap_cons, List.cons_append, List.cons_append, comma, List.append_assoc,
        reads _ _ _ (State.starts_value _)]
      exact own

theorem readsBack_array {vs : List Json} (each : ∀ v ∈ vs, ReadsBack levels v) :
    ReadsBack (levels + 1) (.array vs) := by
  have opened (s : State) (stack : List Frame) (cs : List Char) (starts : s.Starts stack) :
      s.run ('[' :: cs) = (State.firstItem stack).run cs := State.run_of_more rfl (starts _ nofun)
  cases vs with
  | nil =>
    refine ⟨.array [], rfl, fun s stack rest starts => ?_⟩
    exact (opened s stack _ starts).trans (State.run_of_finish rfl rfl)
  | cons v vs =>
    obtain ⟨⟨w, decoded, reads⟩, later⟩ := List.forall_mem_cons.mp each
    obtain ⟨ws, decodedRest, readsRest⟩ := exists_items later
    refine ⟨.array (w :: ws), ?_, fun s stack rest starts => ?_⟩
    · rw [Written.decode?, decodeItems?, decoded, Option.bind_some, decodedRest, Option.map_some,
        Option.map_some]
    · have text : print (.array (v :: vs)) ++ rest =
          '[' :: (v.print ++ (vs.flatMap (',' :: ·.print) ++ ']' :: rest)) := by
        simp [print, printItems_cons]
      rw [text, opened s stack _ starts, reads _ _ _ (State.starts_firstItem stack)]
      exact readsRest [w] stack rest

theorem printMembers_cons (m : String × Json) (ms : List (String × Json)) :
    printMembers (m :: ms) = quote m.1 ++ ':' :: m.2.print ++
      ms.flatMap fun m => ',' :: (quote m.1 ++ ':' :: m.2.print) := by
  induction ms generalizing m with
  | nil => simp [printMembers]
  | cons n ms ih =>
    rw [printMembers, ih, List.flatMap_cons]
    · simp
    · exact List.cons_ne_nil n ms

/-- A member is read behind the brace and behind a comma alike. -/
theorem run_member {s : State} {before : List (List Piece × Written)} {stack : List Frame}
    {k : String} {v : Json} {ps : List Piece} {w : Written}
    (named : s.step (.string ps) = some (.inr (.colon before ps stack)))
    (readsKey : ∀ rest, readToken? (quote k ++ rest) = some (.string ps, rest))
    (reads : w.Reads v.print) (rest : List Char) :
    s.run (quote k ++ ':' :: v.print ++ rest) =
      (State.nextMember ((ps, w) :: before) stack).run rest := by
  have colon (cs : List Char) : (State.colon before ps stack).run (':' :: cs) =
      (State.value (.members before ps :: stack)).run cs := State.run_of_more rfl rfl
  rw [List.append_assoc, State.run_of_more (readsKey _) named, List.cons_append, colon,
    reads _ _ _ (State.starts_value _)]
  rfl

theorem exists_members {ms : List (String × Json)}
    (each : ∀ m ∈ ms, ReadsBack levels m.2) :
    ∃ ws, decodeMembers? levels ws = some ms ∧
      ∀ (before : List (List Piece × Written)) (stack : List Frame) (rest : List Char),
        (State.nextMember before stack).run
            ((ms.flatMap fun m => ',' :: (quote m.1 ++ ':' :: m.2.print)) ++ '}' :: rest) =
          resume (.object (before.reverse ++ ws)) stack rest := by
  induction ms with
  | nil =>
    refine ⟨[], rfl, fun before stack rest => ?_⟩
    rw [List.append_nil]
    exact State.run_of_finish rfl rfl
  | cons m ms ih =>
    obtain ⟨⟨w, decoded, reads⟩, later⟩ := List.forall_mem_cons.mp each
    obtain ⟨ws, decodedRest, readsRest⟩ := ih later
    obtain ⟨ps, decodedKey, readsKey⟩ := readToken?_quote m.1
    refine ⟨(ps, w) :: ws, ?_, fun before stack rest => ?_⟩
    · rw [decodeMembers?, decodedKey, Option.bind_some, decoded, Option.bind_some, decodedRest,
        Option.map_some]
    · have comma (cs : List Char) : (State.nextMember before stack).run (',' :: cs) =
          (State.key before stack).run cs := State.run_of_more rfl rfl
      have own := readsRest ((ps, w) :: before) stack rest
      rw [List.reverse_cons, List.append_assoc, List.singleton_append] at own
      rw [List.flatMap_cons, List.cons_append, List.cons_append, comma, List.append_assoc,
        run_member rfl readsKey reads]
      exact own

theorem readsBack_object {ms : List (String × Json)} (distinct : (ms.map Prod.fst).Nodup)
    (each : ∀ m ∈ ms, ReadsBack levels m.2) : ReadsBack (levels + 1) (.object ms) := by
  have opened (s : State) (stack : List Frame) (cs : List Char) (starts : s.Starts stack) :
      s.run ('{' :: cs) = (State.firstKey stack).run cs := State.run_of_more rfl (starts _ nofun)
  cases ms with
  | nil =>
    refine ⟨.object [], rfl, fun s stack rest starts => ?_⟩
    exact (opened s stack _ starts).trans (State.run_of_finish rfl rfl)
  | cons m ms =>
    obtain ⟨⟨w, decoded, reads⟩, later⟩ := List.forall_mem_cons.mp each
    obtain ⟨ws, decodedRest, readsRest⟩ := exists_members later
    obtain ⟨ps, decodedKey, readsKey⟩ := readToken?_quote m.1
    refine ⟨.object ((ps, w) :: ws), ?_, fun s stack rest starts => ?_⟩
    · rw [Written.decode?, decodeMembers?, decodedKey, Option.bind_some, decoded,
        Option.bind_some, decodedRest, Option.map_some, Option.map_some,
        OrderedMap.merge_of_nodup distinct]
    · have text : print (.object (m :: ms)) ++ rest = '{' :: (quote m.1 ++ ':' :: m.2.print ++
          ((ms.flatMap fun m => ',' :: (quote m.1 ++ ':' :: m.2.print)) ++ '}' :: rest)) := by
        simp [print, printMembers_cons]
      rw [text, opened s stack _ starts, run_member rfl readsKey reads]
      exact readsRest [(ps, w)] stack rest

end Parts

theorem Plain.readsBack {levels : Nat} {v : Json} (h : Plain levels v) : ReadsBack levels v := by
  induction h with
  | string s => exact readsBack_string s
  | array _ ih => exact readsBack_array ih
  | object distinct _ ih => exact readsBack_object distinct ih

/-- The text of such a value reads as the value. -/
theorem read?_render {v : Json} (h : Plain maxLevels v) : read? v.render = some v := by
  obtain ⟨w, decoded, reads⟩ := h.readsBack
  have whole : Written.read? v.render.toList = some (w, []) := by
    have run := reads (.value []) [] [] (State.starts_value [])
    rw [List.append_nil] at run
    rw [Written.read?, render, String.toList_ofList]
    exact run
  rw [read?, whole]
  exact decoded

end Entitlements.Json
