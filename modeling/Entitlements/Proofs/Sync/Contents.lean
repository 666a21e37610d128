import Entitlements.Proofs.Store.Contents
import Entitlements.Proofs.Sync
import Mathlib.Data.Finset.Union

set_option autoImplicit false

/-!
A sync as a write to contents. The permissions of the catalog and the roles are added to the guard,
and the links of compiled roles are replaced by those that the policy asks for; all other links
stay. Written for a set of guards, syncs compose as unions do.
-/

namespace Entitlements

/-- The links that a policy asks for in some guards. -/
def Policy.linksIn (p : Policy) (guards : Finset String) :
    Finset ((String × String) × (String × String)) :=
  guards.biUnion fun guard => (p.grants.toList.flatMap fun e =>
    e.2.permissions.map fun name => ((e.1, guard), (name, guard))).toFinset

theorem Policy.mem_linksIn {p : Policy} {guards : Finset String}
    {l : (String × String) × (String × String)} :
    l ∈ p.linksIn guards ↔ l.1.2 ∈ guards ∧ l.2.2 = l.1.2 ∧
      ∃ e ∈ p.grants.toList, e.1 = l.1.1 ∧ l.2.1 ∈ e.2.permissions := by
  obtain ⟨⟨role, guard⟩, name, guard'⟩ := l
  simp only [linksIn, Finset.mem_biUnion, List.mem_toFinset, List.mem_flatMap, List.mem_map,
    Prod.mk.injEq]
  constructor
  · rintro ⟨_, inside, e, he, _, granted, ⟨rfl, rfl⟩, rfl, rfl⟩
    exact ⟨inside, rfl, e, he, rfl, granted⟩
  · rintro ⟨inside, rfl, e, he, rfl, granted⟩
    exact ⟨_, inside, e, he, _, granted, ⟨rfl, rfl⟩, rfl, rfl⟩

namespace Contents
variable {c : Contents} {guard : String} {l : (String × String) × (String × String)}

def grantRole (guard : String) (c : Contents) (e : String × RoleGrant) : Contents :=
  (c.addRole (e.1, guard)).relink (e.1, guard) e.2.permissions

/-- The names of the entries are distinct, so what is written for one of them stays. -/
theorem mem_links_foldl_grantRole {es : List (String × RoleGrant)} (nodup : (es.map Prod.fst).Nodup)
    (known : ∀ e ∈ es, ∀ name ∈ e.2.permissions, (name, guard) ∈ c.permissions) :
    l ∈ (es.foldl (grantRole guard) c).links ↔
      (l ∈ c.links ∧ ¬(l.1.1 ∈ es.map Prod.fst ∧ l.1.2 = guard)) ∨
        (l.1.2 = guard ∧ l.2.2 = l.1.2 ∧ ∃ e ∈ es, e.1 = l.1.1 ∧ l.2.1 ∈ e.2.permissions) := by
  induction es generalizing c with
  | nil => simp
  | cons e es ih =>
    obtain ⟨fresh, nodup⟩ := List.nodup_cons.mp nodup
    have later := ih (c := c.grantRole guard e) nodup fun f hf =>
      known f (List.mem_cons_of_mem e hf)
    have first := known e List.mem_cons_self
    have step : l ∈ (c.grantRole guard e).links ↔ _ := mem_links_relink
    rw [List.foldl_cons, later, step, List.exists_mem_cons_iff, List.map_cons, List.mem_cons]
    clear ih known later step
    obtain ⟨⟨role, guard'⟩, name, guard''⟩ := l
    by_cases own : role = e.1 ∧ guard' = guard
    · obtain ⟨rfl, rfl⟩ := own
      -- the links of before are gone, and no later entry brings others
      have others : ¬∃ f ∈ es, f.1 = e.1 ∧ name ∈ f.2.permissions := by
        rintro ⟨f, hf, same, -⟩
        exact fresh (same ▸ List.mem_map_of_mem hf)
      simp only [addRole, true_and, fresh, others, ne_eq, not_true_eq_false, and_false, false_or,
        or_false, and_true, not_false_eq_true]
      constructor
      · rintro ⟨-, inside, granted⟩
        exact ⟨inside, granted⟩
      · rintro ⟨inside, granted⟩
        exact ⟨inside ▸ first name granted, inside, granted⟩
    · by_cases inside : guard' = guard
      · have other : role ≠ e.1 := fun same => own ⟨same, inside⟩
        simp [addRole, other, other.symm]
      · simp [addRole, inside]

/-- Syncs a policy into each of some guards. -/
def sync (p : Policy) (admins : SuperAdmins) (guards : Finset String) (c : Contents) : Contents where
  permissions := c.permissions ∪ p.catalog.names.toFinset ×ˢ guards
  roles := c.roles ∪ (p.grants.keys ++ admins.names).toFinset ×ˢ guards
  links := c.links.filter (fun l => ¬(l.1.1 ∈ p.grants.keys ∧ l.1.2 ∈ guards)) ∪ p.linksIn guards

variable {p : Policy} {admins : SuperAdmins}

theorem mem_permissions_sync {guards : Finset String} {key : String × String} :
    key ∈ (c.sync p admins guards).permissions ↔
      key ∈ c.permissions ∨ (key.1 ∈ p.catalog.names ∧ key.2 ∈ guards) := by
  rw [sync, Finset.mem_union, Finset.mem_product, List.mem_toFinset]

theorem mem_roles_sync {guards : Finset String} {key : String × String} :
    key ∈ (c.sync p admins guards).roles ↔
      key ∈ c.roles ∨ ((key.1 ∈ p.grants.keys ∨ key.1 ∈ admins.names) ∧ key.2 ∈ guards) := by
  rw [sync, Finset.mem_union, Finset.mem_product, List.mem_toFinset, List.mem_append]

theorem mem_links_sync {guards : Finset String} : l ∈ (c.sync p admins guards).links ↔
    (l ∈ c.links ∧ ¬(l.1.1 ∈ p.grants.keys ∧ l.1.2 ∈ guards)) ∨ l ∈ p.linksIn guards := by
  rw [sync, Finset.mem_union, Finset.mem_filter]

@[simp] theorem sync_empty (c : Contents) : c.sync p admins ∅ = c := by
  ext1 <;> simp [sync, Policy.linksIn]

/-- What the policy asks for in a guard does not depend on how often it is synced, or on what else
is synced before. -/
theorem sync_sync (c : Contents) (guards guards' : Finset String) :
    (c.sync p admins guards).sync p admins guards' = c.sync p admins (guards ∪ guards') := by
  ext1
  · simp only [sync, Finset.product_union, Finset.union_assoc]
  · simp only [sync, Finset.product_union, Finset.union_assoc]
  · ext l
    simp only [mem_links_sync, Policy.mem_linksIn, Finset.mem_union]
    by_cases asked : ∃ e ∈ p.grants.toList, e.1 = l.1.1 ∧ l.2.1 ∈ e.2.permissions
    · obtain ⟨e, he, role, -⟩ := id asked
      have own : l.1.1 ∈ p.grants.keys := role ▸ List.mem_map_of_mem he
      simp only [asked, own, true_and, and_true]
      tauto
    · simp only [asked, and_false, or_false]
      tauto

end Contents

namespace Store
variable {s : Store}

theorem contents_granted (h : s.WellFormed) (guard : String) (e : String × RoleGrant) :
    (s.granted guard e).contents = s.contents.grantRole guard e := by
  obtain ⟨there, key⟩ := s.roles.rowFor_spec e.1 guard
  have wf := (s.evolves_offerRole e.1 guard).wellFormed h
  rw [granted, contents_relinked wf there, contents_offerRole h, key]
  rfl

/-- Only the loop over compiled roles writes links. -/
theorem links_contents_synced (p : Policy) (admins : SuperAdmins) (h : s.WellFormed)
    (guard : String) : (s.synced p admins guard).contents.links =
      (p.grants.toList.foldl (Contents.grantRole guard)
        (s.offered (p.catalog.names.map (·, guard))).contents).links := by
  have wf := (s.evolves_offered (p.catalog.names.map (·, guard))).wellFormed h
  have granted := Evolves.foldl (evolves_granted guard) _ p.grants.toList |>.wellFormed wf
  have supers := Evolves.foldl (evolves_offerRole · · guard)
    (p.grants.toList.foldl (Store.granted guard) (s.offered (p.catalog.names.map (·, guard))))
    admins.names
  rw [← contents_foldl (evolves_granted guard) (fun s e h => contents_granted h guard e) wf]
  exact links_contents_of_evolves supers granted (by rw [synced, foldl_offerRole])

/-- A sync does to the contents of a store just what it is said to do. -/
theorem contents_synced (p : Policy) (admins : SuperAdmins) (h : s.WellFormed) (guard : String) :
    (s.synced p admins guard).contents = s.contents.sync p admins {guard} := by
  have offered := contents_offered h (p.catalog.names.map (·, guard))
  have known (e : String × RoleGrant) (he : e ∈ p.grants.toList) (name : String)
      (granted : name ∈ e.2.permissions) :
      (name, guard) ∈ (s.offered (p.catalog.names.map (·, guard))).contents.permissions := by
    rw [offered, Finset.mem_union, List.mem_toFinset]
    exact .inr (List.mem_map_of_mem (p.grants_subset he granted))
  have inside (names : List String) (key : String × String) :
      key ∈ names.map (·, guard) ↔ key ∈ names.toFinset ×ˢ {guard} := by
    simp [Prod.ext_iff, eq_comm]
  ext1
  · ext key
    rw [mem_permissions_contents, permissions_synced, Table.mem_keys_offerAll, inside,
      ← mem_permissions_contents, ← Finset.mem_union, Contents.sync]
  · ext key
    rw [mem_roles_contents, roles_synced, Table.mem_keys_offerAll, inside, ← mem_roles_contents,
      ← Finset.mem_union, Contents.sync]
  · ext l
    rw [links_contents_synced p admins h, Contents.mem_links_foldl_grantRole p.grants.nodup known,
      offered, Contents.mem_links_sync, Policy.mem_linksIn, Finset.mem_singleton]
    rfl

end Store

namespace Database
variable {db db' : Database} {p : Policy} {admins : SuperAdmins} {guard : String}
  {report : SyncReport}

/-- A sync that is done has done this, also where there was nothing to write. -/
theorem contents_of_sync (h : db.store.WellFormed)
    (done : sync p admins guard db = .ok report db') :
    report = reportOf p admins (Text.trim guard) ∧ db.store.Evolves db'.store ∧
      db'.store.contents = db.store.contents.sync p admins {Text.trim guard} := by
  by_cases blank : Text.trim guard = ""
  · rw [sync_of_blank p admins blank] at done
    cases done
  by_cases writable : db.access = .writable
  · obtain ⟨s, access⟩ := db
    subst writable
    rw [sync_of_writable h.permissions p admins blank] at done
    cases done
    exact ⟨rfl, s.evolves_synced p admins _, Store.contents_synced p admins h _⟩
  · rw [sync_of_locked writable p admins blank] at done
    split at done
    · rename_i nothing
      cases done
      obtain ⟨names, roles, supers⟩ := nothing
      refine ⟨rfl, .refl _, ?_⟩
      simp [Contents.sync, Policy.linksIn, OrderedMap.keys, names, roles, supers]
    · cases done

end Database

end Entitlements
