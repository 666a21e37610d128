import Entitlements.Proofs.Store.Invariant
import Mathlib.Data.Finset.Prod

set_option autoImplicit false

/-!
What a store holds when ids are left out: permissions and roles by name and guard, and links by the
two ends that they join. Each write to a store is a write to its contents, whatever numbers it gave.
-/

namespace Entitlements

@[ext] structure Contents where
  permissions : Finset (String × String)
  roles : Finset (String × String)
  links : Finset ((String × String) × (String × String))
  deriving DecidableEq

namespace Contents

def addRole (c : Contents) (role : String × String) : Contents :=
  { c with roles := insert role c.roles }

/-- Replaces the links of a role by those to the named permissions of its guard. -/
def relink (c : Contents) (role : String × String) (names : List String) : Contents :=
  { c with links := c.links.filter (·.1 ≠ role) ∪
      {role} ×ˢ c.permissions.filter fun p => p.2 = role.2 ∧ p.1 ∈ names }

theorem mem_links_relink {c : Contents} {role : String × String} {names : List String}
    {l : (String × String) × (String × String)} :
    l ∈ (c.relink role names).links ↔ (l ∈ c.links ∧ l.1 ≠ role) ∨
      (l.1 = role ∧ l.2 ∈ c.permissions ∧ l.2.2 = role.2 ∧ l.2.1 ∈ names) := by
  simp only [relink, Finset.mem_union, Finset.mem_filter, Finset.mem_product,
    Finset.mem_singleton]

end Contents

namespace Store

/-- The links by the keys of their roles and permissions. -/
def namedLinks (s : Store) : List ((String × String) × (String × String)) :=
  s.roles.rows.flatMap fun r => (s.permissionsOf r.id).map fun p => (r.key, p.key)

def contents (s : Store) : Contents :=
  ⟨s.permissions.keys.toFinset, s.roles.keys.toFinset, s.namedLinks.toFinset⟩

variable {s s' : Store} {role : Row}

theorem contents_empty : (∅ : Store).contents = ⟨∅, ∅, ∅⟩ := rfl

@[simp] theorem mem_permissions_contents {key : String × String} :
    key ∈ s.contents.permissions ↔ key ∈ s.permissions.keys := List.mem_toFinset

@[simp] theorem mem_roles_contents {key : String × String} :
    key ∈ s.contents.roles ↔ key ∈ s.roles.keys := List.mem_toFinset

theorem mem_links_contents {l : (String × String) × (String × String)} :
    l ∈ s.contents.links ↔ ∃ r ∈ s.roles.rows, ∃ p ∈ s.permissions.rows,
      ⟨r.id, p.id⟩ ∈ s.links ∧ (r.key, p.key) = l := by
  simp [contents, namedLinks, permissionsOf, and_assoc]

/-- Keys tell rows apart, so a link is known by the keys of its ends. -/
theorem mem_links_contents_of_rows (h : s.WellFormed) {r p : Row} (hr : r ∈ s.roles.rows)
    (hp : p ∈ s.permissions.rows) :
    (r.key, p.key) ∈ s.contents.links ↔ ⟨r.id, p.id⟩ ∈ s.links := by
  rw [mem_links_contents]
  constructor
  · rintro ⟨r', hr', p', hp', linked, same⟩
    obtain ⟨role, permission⟩ := Prod.mk.inj same
    rw [h.roles.eq_of_key hr hr' role.symm, h.permissions.eq_of_key hp hp' permission.symm]
    exact linked
  · exact fun linked => ⟨r, hr, p, hp, linked, rfl⟩

theorem WellFormed.exists_rows (h : s.WellFormed) {l : Link} (hl : l ∈ s.links) :
    ∃ r ∈ s.roles.rows, ∃ p ∈ s.permissions.rows, l = ⟨r.id, p.id⟩ := by
  obtain ⟨role, permission⟩ := h.joined l hl
  obtain ⟨r, hr, same⟩ := Table.hasId_iff.mp role
  obtain ⟨p, hp, same'⟩ := Table.hasId_iff.mp permission
  exact ⟨r, hr, p, hp, by rw [same, same']⟩

/-- The same rows and links; only the counters may be further on. -/
structure SameRows (s s' : Store) : Prop where
  permissions : s'.permissions.rows = s.permissions.rows
  roles : s'.roles.rows = s.roles.rows
  links : s'.links.Perm s.links
  counters : s.permissions.counter ≤ s'.permissions.counter ∧ s.roles.counter ≤ s'.roles.counter

/-- A store that evolves and keeps its contents keeps its ids too. -/
theorem Evolves.sameRows (h : s.Evolves s') (wf : s.WellFormed) (same : s'.contents = s.contents) :
    s.SameRows s' := by
  have wf' := h.wellFormed wf
  have permissions : s'.permissions.rows = s.permissions.rows := by
    apply h.permissions.rows_eq wf'.permissions
    intro key hk
    rwa [← mem_permissions_contents, ← same, mem_permissions_contents]
  have roles : s'.roles.rows = s.roles.rows := by
    apply h.roles.rows_eq wf'.roles
    intro key hk
    rwa [← mem_roles_contents, ← same, mem_roles_contents]
  refine ⟨permissions, roles, ?_, h.permissions.counter, h.roles.counter⟩
  rw [List.perm_ext_iff_of_nodup wf'.links wf.links]
  have known {r p : Row} (hr : r ∈ s.roles.rows) (hp : p ∈ s.permissions.rows) :
      ⟨r.id, p.id⟩ ∈ s'.links ↔ ⟨r.id, p.id⟩ ∈ s.links := by
    rw [← mem_links_contents_of_rows wf' (roles ▸ hr) (permissions ▸ hp), same,
      mem_links_contents_of_rows wf hr hp]
  intro l
  constructor
  · intro hl
    obtain ⟨r, hr, p, hp, rfl⟩ := wf'.exists_rows hl
    exact (known (roles ▸ hr) (permissions ▸ hp)).mp hl
  · intro hl
    obtain ⟨r, hr, p, hp, rfl⟩ := wf.exists_rows hl
    exact (known hr hp).mpr hl

/-- A link joins rows that are there, so rows that come later are at the end of none. -/
theorem links_contents_of_evolves (h : s.Evolves s') (wf : s.WellFormed)
    (same : s'.links = s.links) : s'.contents.links = s.contents.links := by
  have wf' := h.wellFormed wf
  ext l
  rw [mem_links_contents, mem_links_contents, same]
  constructor
  · rintro ⟨r, hr, p, hp, linked, keys⟩
    obtain ⟨r', hr', p', hp', ids⟩ := wf.exists_rows linked
    obtain ⟨role, permission⟩ := Link.mk.inj ids
    have hr'' := wf'.roles.eq_of_id hr (h.roles.mem_rows hr') role
    have hp'' := wf'.permissions.eq_of_id hp (h.permissions.mem_rows hp') permission
    exact ⟨r, hr'' ▸ hr', p, hp'' ▸ hp', linked, keys⟩
  · rintro ⟨r, hr, p, hp, linked, keys⟩
    exact ⟨r, h.roles.mem_rows hr, p, h.permissions.mem_rows hp, linked, keys⟩

theorem contents_offered (h : s.WellFormed) (keys : List (String × String)) :
    (s.offered keys).contents =
      { s.contents with permissions := s.contents.permissions ∪ keys.toFinset } := by
  ext1
  · ext key
    simp [offered, Table.mem_keys_offerAll]
  · rfl
  · exact links_contents_of_evolves (s.evolves_offered keys) h rfl

theorem contents_offerRole (h : s.WellFormed) (name guard : String) :
    (s.offerRole name guard).contents = s.contents.addRole (name, guard) := by
  ext1
  · rfl
  · ext key
    simp [offerRole, Contents.addRole, Table.mem_keys_offer, or_comm]
  · exact links_contents_of_evolves (s.evolves_offerRole name guard) h rfl

theorem contents_relinked (h : s.WellFormed) (known : role ∈ s.roles.rows) (names : List String) :
    (s.relinked role names).contents = s.contents.relink role.key names := by
  ext1
  · rfl
  · rfl
  · ext l
    rw [Contents.mem_links_relink, mem_links_contents]
    constructor
    · rintro ⟨r, hr, p, hp, linked, rfl⟩
      rcases mem_links_relinked.mp linked with ⟨old, other⟩ | ⟨own, new⟩
      · refine .inl ⟨mem_links_contents.mpr ⟨r, hr, p, hp, old, rfl⟩, fun key => ?_⟩
        exact other (congrArg Row.id (h.roles.eq_of_key hr known key))
      · obtain ⟨q, hq, guard, named, id⟩ := mem_grantIds_iff.mp new
        obtain rfl := h.permissions.eq_of_id hq hp id
        obtain rfl := h.roles.eq_of_id hr known own
        exact .inr ⟨rfl, mem_permissions_contents.mpr (List.mem_map_of_mem hp), guard, named⟩
    · rintro (⟨old, other⟩ | ⟨own, granted, guard, named⟩)
      · obtain ⟨r, hr, p, hp, linked, rfl⟩ := mem_links_contents.mp old
        refine ⟨r, hr, p, hp, mem_links_relinked.mpr (.inl ⟨linked, fun id => ?_⟩), rfl⟩
        exact other (congrArg Row.key (h.roles.eq_of_id hr known id))
      · obtain ⟨p, hp, key⟩ := List.mem_map.mp (mem_permissions_contents.mp granted)
        rw [← key] at guard named
        have new := mem_grantIds_iff.mpr ⟨p, hp, guard, named, rfl⟩
        exact ⟨role, known, p, hp, mem_links_relinked.mpr (.inr ⟨rfl, new⟩), Prod.ext own.symm key⟩

/-- A loop over a store is a loop over its contents when each step is a step. -/
theorem contents_foldl {α : Type} {f : Store → α → Store} {g : Contents → α → Contents}
    (evolves : ∀ (s : Store) (a : α), s.Evolves (f s a))
    (step : ∀ (s : Store) (a : α), s.WellFormed → (f s a).contents = g s.contents a)
    (h : s.WellFormed) (as : List α) : (as.foldl f s).contents = as.foldl g s.contents := by
  induction as generalizing s with
  | nil => rfl
  | cons a as ih => rw [List.foldl_cons, ih ((evolves s a).wellFormed h), step s a h, List.foldl_cons]

end Store

end Entitlements
