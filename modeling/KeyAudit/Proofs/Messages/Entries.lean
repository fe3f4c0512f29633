/-
The entries that messages are made of, when no path stands over two leaves: nothing
is replaced then, and the entries are the leaves that were listed, in another order
(`Messages.perm_entries_ofLeaves`).

Messages are determined by their entries as a set (`Messages.ext_entry`), since the
order of the paths leaves no choice of where an entry stands.
-/

import KeyAudit.Messages

namespace KeyAudit

namespace Ascending

variable {α : Type} {key : α → String}

/-- Where keys differ, what is found under a key is the one item that has it. -/
theorem find?_eq_some_iff {k : String} {x : α} {xs : List α} (hkeys : (xs.map key).Nodup) :
    find? key k xs = some x ↔ x ∈ xs ∧ key x = k := by
  constructor
  · intro h
    have hkey := List.find?_some h
    exact ⟨List.mem_of_find?_eq_some h, eq_of_beq hkey⟩
  · rintro ⟨hmem, hkey⟩
    induction xs with
    | nil => cases hmem
    | cons y ys ih =>
        rw [List.map_cons, List.nodup_cons] at hkeys
        rw [find?_cons]
        rcases List.mem_cons.mp hmem with rfl | hmem
        · rw [if_pos hkey]
        · have hne : key y ≠ k := by
            intro he
            exact hkeys.1 (List.mem_map.mpr ⟨x, hmem, hkey.trans he.symm⟩)
          rw [if_neg hne]
          exact ih hkeys.2 hmem

theorem nodup_of_nodup_keys {xs : List α} (hkeys : (xs.map key).Nodup) : xs.Nodup :=
  List.Pairwise.of_map key (fun _ _ hne he => hne (congrArg key he)) hkeys

/-- **Items with different keys are all kept, and only brought into order.** -/
theorem perm_ofList {xs : List α} (hkeys : (xs.map key).Nodup) : (ofList key xs).Perm xs := by
  have hordered : ((ofList key xs).map key).Nodup := nodup_of_pairwise (ordered_ofList xs)
  have hreverse : (xs.reverse.map key).Nodup := by
    rw [List.map_reverse]
    exact List.pairwise_reverse.mpr (hkeys.imp Ne.symm)
  apply (List.perm_ext_iff_of_nodup (nodup_of_nodup_keys hordered) (nodup_of_nodup_keys hkeys)).mpr
  intro x
  calc x ∈ ofList key xs
      ↔ find? key (key x) (ofList key xs) = some x := by simp [find?_eq_some_iff hordered]
    _ ↔ find? key (key x) xs.reverse = some x := by rw [find?_ofList]
    _ ↔ x ∈ xs := by simp [find?_eq_some_iff hreverse]

end Ascending

namespace Messages

theorem nodup_entries (m : Messages) : m.entries.Nodup :=
  Ascending.nodup_of_nodup_keys (Ascending.nodup_of_pairwise m.ascending)

/-- **Messages are determined by their entries**, whatever order these came in. -/
theorem ext_entry {m n : Messages} (h : ∀ entry, entry ∈ m.entries ↔ entry ∈ n.entries) :
    m = n := by
  have hperm : m.entries.Perm n.entries :=
    (List.perm_ext_iff_of_nodup m.nodup_entries n.nodup_entries).mpr h
  have hentries : m.entries = n.entries := by
    refine hperm.eq_of_pairwise ?_ (List.pairwise_map.mp m.ascending)
      (List.pairwise_map.mp n.ascending)
    intro a b _ _ hab hba
    exact absurd hba (String.lt_asymm hab)
  cases m
  cases n
  cases hentries
  rfl

theorem perm_entries_ofLeaves {leaves : List (String × Json)}
    (hpaths : (leaves.map Prod.fst).Nodup) : (ofLeaves leaves).entries.Perm leaves :=
  Ascending.perm_ofList hpaths

end Messages

end KeyAudit
