import RuntimeValues.Prelude.Table

/-!
# Looking up names

The table has each name once, so it does not matter in which order it is kept: an entry is found
under its name wherever it stands, and the error of a missing name lists the names in the order
of their bytes. The two ways to look up a name succeed for the names of the table and for no
others, and with the same value. Every value of the table has an identity.
-/

namespace RuntimeValues.Prelude

set_option autoImplicit false

variable {entries : List (String × Value)} {name : String} {v : Value}

theorem lookup_eq_some_of_mem (hnames : (entries.map Prod.fst).Nodup) (h : (name, v) ∈ entries) :
    entries.lookup name = some v := by
  obtain ⟨first, last, rfl⟩ := List.append_of_mem h
  refine List.lookup_eq_some_iff.mpr ⟨first, last, rfl, fun entry hentry => ?_⟩
  rw [List.map_append, List.map_cons, List.nodup_append] at hnames
  obtain ⟨-, -, hapart⟩ := hnames
  exact bne_iff_ne.mpr
    (hapart entry.1 (List.mem_map_of_mem hentry) name List.mem_cons_self).symm

theorem mem_of_lookup_eq_some (h : entries.lookup name = some v) : (name, v) ∈ entries := by
  obtain ⟨first, last, rfl, -⟩ := List.lookup_eq_some_iff.mp h
  exact List.mem_append_right _ List.mem_cons_self

theorem nodup_names : names.Nodup := by decide

/-- The order of the entries does not matter. -/
theorem lookup_of_perm (h : entries.Perm table) (name : String) :
    entries.lookup name = lookup name := by
  have hnames : (entries.map Prod.fst).Nodup := (h.map Prod.fst).nodup_iff.mpr nodup_names
  ext v
  constructor
  · intro hv
    exact lookup_eq_some_of_mem nodup_names (h.mem_iff.mp (mem_of_lookup_eq_some hv))
  · intro hv
    exact lookup_eq_some_of_mem hnames (h.mem_iff.mpr (mem_of_lookup_eq_some hv))

theorem lookup_eq_some_iff :
    lookup name = some v ↔
      (∃ b : Builtin, name = b.name ∧ v = b.value) ∨ (name = "null" ∧ v = .null) := by
  constructor
  · intro h
    have hmem : (name, v) ∈ table := mem_of_lookup_eq_some h
    simp only [table, List.mem_append, List.mem_map, List.mem_singleton] at hmem
    rcases hmem with ⟨b, -, hentry⟩ | hnull
    · obtain ⟨rfl, rfl⟩ := Prod.mk.inj hentry
      exact .inl ⟨b, rfl, rfl⟩
    · exact .inr (Prod.mk.inj hnull)
  · rintro (⟨b, rfl, rfl⟩ | ⟨rfl, rfl⟩)
    · exact lookup_builtin b
    · rfl

theorem lookup_eq_function_iff {f : FunctionId} :
    lookup name = some (.function f) ↔ ∃ b : Builtin, name = b.name ∧ f = b.id := by
  simp [lookup_eq_some_iff, Builtin.value]

theorem mem_names_iff : name ∈ names ↔ ∃ v, lookup name = some v := by
  rw [names, List.mem_map]
  constructor
  · rintro ⟨⟨name, v⟩, hentry, rfl⟩
    exact ⟨v, lookup_eq_some_of_mem nodup_names hentry⟩
  · rintro ⟨v, hv⟩
    exact ⟨(name, v), mem_of_lookup_eq_some hv, rfl⟩

theorem find_eq_ok_iff : find name = .ok v ↔ lookup name = some v := by
  cases h : lookup name <;> simp [find, h]

/-- The error of a missing name, in whatever order the names are listed. -/
theorem find_of_missing (h : name ∉ names) {listed : List String} (hlisted : listed.Perm names) :
    find name = .error (PreludeError.unknownName name listed) := by
  have hnone : lookup name = none := by
    rw [mem_names_iff, ← Option.isSome_iff_exists, Option.not_isSome_iff_eq_none] at h
    exact h
  simp only [find, hnone, PreludeError.unknownName, Text.sorted_eq_sorted_iff.mpr hlisted]

theorem sorted_names : Text.sorted names = ["first", "is_null", "null", "pair", "second"] :=
  (Text.eq_sorted_of_perm (by decide) (by decide)).symm

end RuntimeValues.Prelude
