/-
Maps by name, told apart by their entries.

A map keeps its entries in the order of the names, so it is known by which entries it has
(`eq_of_mem_iff`), and of names that differ it has what was put in, whatever came first
(`mem_ofList`).  What comes first in it is what has the smallest name (`first_iff_least`).
-/
import TableDdl.NameMap
import TableDdl.Proofs.First

namespace TableDdl
namespace NameMap

variable {α : Type} {m n : NameMap α}

theorem names_nodup (m : NameMap α) : (m.entries.map Prod.fst).Nodup := by
  refine List.pairwise_map.mpr (m.sorted.imp fun hlt heq => ?_)
  exact String.lt_irrefl _ (heq ▸ hlt)

theorem nodup (m : NameMap α) : m.entries.Nodup :=
  List.Pairwise.of_map Prod.fst (fun _ _ hne heq => hne (congrArg Prod.fst heq)) m.names_nodup

/-- A map is known by its entries. -/
theorem eq_of_mem_iff (h : ∀ e, e ∈ m.entries ↔ e ∈ n.entries) : m = n := by
  have hperm : m.entries.Perm n.entries := (List.perm_ext_iff_of_nodup m.nodup n.nodup).mpr h
  refine ext (hperm.eq_of_pairwise ?_ m.sorted n.sorted)
  intro a b _ _ hab hba
  exact absurd hba (String.lt_asymm hab)

theorem mem_insertEntry_iff {name : String} {value : α} {entries : List (String × α)}
    (hnew : ∀ e ∈ entries, e.1 ≠ name) {e : String × α} :
    e ∈ insertEntry name value entries ↔ e = (name, value) ∨ e ∈ entries := by
  induction entries with
  | nil => simp [insertEntry]
  | cons first rest ih =>
      have hfirst : name ≠ first.1 := (hnew first List.mem_cons_self).symm
      have hrest := ih fun e he => hnew e (List.mem_cons_of_mem first he)
      rw [insertEntry, if_neg hfirst]
      split
      · exact List.mem_cons
      · rw [List.mem_cons, hrest, List.mem_cons]
        exact or_left_comm

/-- Nothing gives way while the names in the map and those still to come all differ. -/
theorem mem_foldl_insert {rest : List (String × α)} (hdistinct : (rest.map Prod.fst).Nodup)
    (hapart : ∀ e ∈ m.entries, e.1 ∉ rest.map Prod.fst) (e : String × α) :
    e ∈ (rest.foldl (fun k e => k.insert e.1 e.2) m).entries ↔ e ∈ m.entries ∨ e ∈ rest := by
  induction rest generalizing m with
  | nil => simp
  | cons first rest ih =>
      obtain ⟨hfirst, hrest⟩ := List.nodup_cons.mp hdistinct
      have hnew : ∀ e ∈ m.entries, e.1 ≠ first.1 := fun e he heq =>
        hapart e he (heq ▸ List.mem_cons_self)
      have hinsert : ∀ e, e ∈ (m.insert first.1 first.2).entries ↔ e = first ∨ e ∈ m.entries :=
        fun e => mem_insertEntry_iff hnew
      rw [List.foldl_cons, ih hrest, hinsert, List.mem_cons, or_assoc, or_left_comm]
      intro e he
      rcases (hinsert e).mp he with rfl | he
      · exact hfirst
      · exact fun hmem => hapart e he (List.mem_cons_of_mem first.1 hmem)

theorem mem_ofList {entries : List (String × α)} (hdistinct : (entries.map Prod.fst).Nodup)
    (e : String × α) : e ∈ (ofList entries).entries ↔ e ∈ entries := by
  have hapart : ∀ e ∈ (empty : NameMap α).entries, e.1 ∉ entries.map Prod.fst := nofun
  exact (mem_foldl_insert hdistinct hapart e).trans (or_iff_right List.not_mem_nil)

/-- The entries of a map make the map. -/
theorem ofList_entries (m : NameMap α) : ofList m.entries = m :=
  eq_of_mem_iff (mem_ofList m.names_nodup)

/-- The first entry with a property is the one with the smallest name. -/
theorem first_iff_least {p : String × α → Prop} {e : String × α} :
    First p m.entries e ↔ e ∈ m.entries ∧ p e ∧ ∀ other ∈ m.entries, p other → e.1 ≤ other.1 := by
  constructor
  · intro h
    refine ⟨h.mem, h.holds, fun other hmem hother => ?_⟩
    obtain ⟨before, after, hentries, -, hbefore⟩ := h
    have hsorted := m.sorted
    rw [hentries] at hmem hsorted
    rcases List.mem_append.mp hmem with hmem | hmem
    · exact absurd hother (hbefore other hmem)
    rcases List.mem_cons.mp hmem with rfl | hmem
    · exact String.le_refl _
    · have hlt := (List.pairwise_cons.mp (List.pairwise_append.mp hsorted).2.1).1 other hmem
      exact String.not_lt.mp (String.lt_asymm hlt)
  · rintro ⟨hmem, he, hleast⟩
    obtain ⟨before, after, hentries⟩ := List.mem_iff_append.mp hmem
    refine ⟨before, after, hentries, he, fun other hbefore hother => ?_⟩
    have hsorted := m.sorted
    rw [hentries] at hsorted
    have hlt := (List.pairwise_append.mp hsorted).2.2 other hbefore e List.mem_cons_self
    exact String.not_lt.mpr (hleast other (hentries ▸ List.mem_append_left _ hbefore) hother) hlt

end NameMap
end TableDdl
