import Mathlib.Data.List.Nodup

namespace Py

theorem nodup_eraseDups {α : Type} [DecidableEq α] (items : List α) : items.eraseDups.Nodup := by
  induction size : items.length using Nat.strongRecOn generalizing items with
  | _ n ih =>
    cases items with
    | nil => exact List.nodup_nil
    | cons first rest =>
      rw [List.eraseDups_cons, List.nodup_cons, List.mem_eraseDups]
      refine ⟨by simp, ih _ ?_ _ rfl⟩
      have shorter := List.length_filter_le (fun item => !item == first) rest
      rw [List.length_cons] at size
      omega

namespace Assoc

variable {κ ν : Type} [DecidableEq κ]

def set : List (κ × ν) → κ → ν → List (κ × ν)
  | [], key, value => [(key, value)]
  | (k, v) :: rest, key, value =>
    if k = key then (k, value) :: rest else (k, v) :: set rest key value

theorem lookup_cons (k key : κ) (v : ν) (rest : List (κ × ν)) :
    ((k, v) :: rest).lookup key = if key = k then some v else rest.lookup key := by
  by_cases same : key = k
  · simp [same]
  · have other : (key == k) = false := by simpa using same
    simp [List.lookup_cons, other, same]

theorem set_keys (entries : List (κ × ν)) (key : κ) (value : ν) :
    (set entries key value).map Prod.fst =
      if key ∈ entries.map Prod.fst then entries.map Prod.fst else entries.map Prod.fst ++ [key] := by
  induction entries with
  | nil => simp [set]
  | cons entry rest ih =>
    obtain ⟨k, v⟩ := entry
    by_cases same : k = key
    · simp [set, same]
    · have other : key ≠ k := Ne.symm same
      simp only [set, same, if_false, List.map_cons, ih, List.mem_cons, other, false_or]
      split <;> simp

theorem set_absent {entries : List (κ × ν)} {key : κ} (absent : key ∉ entries.map Prod.fst) (value : ν) :
    set entries key value = entries ++ [(key, value)] := by
  induction entries with
  | nil => rfl
  | cons entry rest ih =>
    obtain ⟨k, v⟩ := entry
    rw [List.map_cons, List.mem_cons, not_or] at absent
    rw [set, if_neg (Ne.symm absent.1), ih absent.2, List.cons_append]

theorem set_nodup {entries : List (κ × ν)} (h : (entries.map Prod.fst).Nodup)
    (key : κ) (value : ν) : ((set entries key value).map Prod.fst).Nodup := by
  rw [set_keys]
  split
  · exact h
  · rename_i absent
    refine List.nodup_append.mpr ⟨h, List.nodup_singleton key, ?_⟩
    intro k member l single same
    rw [same, List.mem_singleton.mp single] at member
    exact absent member

theorem lookup_set (entries : List (κ × ν)) (key other : κ) (value : ν) :
    (set entries key value).lookup other = if other = key then some value else entries.lookup other := by
  induction entries with
  | nil => simp [set, lookup_cons]
  | cons entry rest ih =>
    obtain ⟨k, v⟩ := entry
    by_cases same : k = key
    · subst same
      simp only [set, if_true, lookup_cons]
      split <;> rfl
    · simp only [set, same, if_false, lookup_cons, ih]
      split
      · rename_i here
        simp [here, same]
      · rfl

theorem lookup_filter_ne (entries : List (κ × ν)) (key other : κ) :
    (entries.filter (fun entry => entry.1 ≠ key)).lookup other =
      if other = key then none else entries.lookup other := by
  induction entries with
  | nil => simp
  | cons entry rest ih =>
    obtain ⟨k, v⟩ := entry
    by_cases same : k = key
    · subst same
      simp only [ne_eq, not_true_eq_false, decide_false, List.filter_cons_of_neg, ih, lookup_cons,
        Bool.false_eq_true, not_false_eq_true]
      split <;> rfl
    · simp only [ne_eq, same, not_false_eq_true, decide_true, List.filter_cons_of_pos, lookup_cons, ih]
      split
      · rename_i here
        simp [here, same]
      · rfl

theorem filter_set_of_not {p : κ → Bool} (entries : List (κ × ν)) (key : κ) (other : p key = false) (value : ν) :
    (Assoc.set entries key value).filter (fun row => p row.1) = entries.filter fun row => p row.1 := by
  induction entries with
  | nil => simp [Assoc.set, other]
  | cons entry rest ih =>
    obtain ⟨k, v⟩ := entry
    by_cases same : k = key
    · simp [Assoc.set, same, other]
    · simp [Assoc.set, same, List.filter_cons, ih]

theorem filter_set_of_unselected {p : κ × ν → Bool} {entries : List (κ × ν)} {key : κ} {value : ν}
    (new : p (key, value) = false) (old : ∀ v, entries.lookup key = some v → p (key, v) = false) :
    (Assoc.set entries key value).filter p = entries.filter p := by
  induction entries with
  | nil => simp [Assoc.set, new]
  | cons entry rest ih =>
    obtain ⟨k, v⟩ := entry
    simp only [lookup_cons] at old
    by_cases same : k = key
    · subst same
      have out := old v (if_pos rfl)
      simp [Assoc.set, new, out]
    · simp only [if_neg (Ne.symm same)] at old
      simp [Assoc.set, same, List.filter_cons, ih old]

theorem set_stored {entries : List (κ × ν)} {key : κ} {value : ν} (found : entries.lookup key = some value) :
    Assoc.set entries key value = entries := by
  induction entries with
  | nil => cases found
  | cons entry rest ih =>
    obtain ⟨k, v⟩ := entry
    rw [lookup_cons] at found
    by_cases same : k = key
    · rw [if_pos same.symm, Option.some.injEq] at found
      rw [Assoc.set, if_pos same, found]
    · rw [if_neg (Ne.symm same)] at found
      rw [Assoc.set, if_neg same, ih found]

theorem mem_set {entries : List (κ × ν)} {key : κ} {value : ν} {row : κ × ν}
    (member : row ∈ Assoc.set entries key value) : row = (key, value) ∨ row ∈ entries := by
  induction entries with
  | nil => exact .inl (List.mem_singleton.mp member)
  | cons entry rest ih =>
    obtain ⟨k, v⟩ := entry
    by_cases same : k = key
    · simp only [Assoc.set, if_pos same] at member
      rcases List.mem_cons.mp member with first | later
      · exact .inl (first.trans (congrArg (·, value) same))
      · exact .inr (List.mem_cons_of_mem _ later)
    · simp only [Assoc.set, if_neg same] at member
      rcases List.mem_cons.mp member with first | later
      · exact .inr (first ▸ List.mem_cons_self)
      · exact (ih later).imp id (List.mem_cons_of_mem _)

end Assoc

structure Dict (κ ν : Type) where
  entries : List (κ × ν)
  nodup : (entries.map Prod.fst).Nodup

namespace Dict

variable {κ ν : Type} [DecidableEq κ]

def empty : Dict κ ν := ⟨[], List.nodup_nil⟩

def get? (d : Dict κ ν) (key : κ) : Option ν := d.entries.lookup key

def set (d : Dict κ ν) (key : κ) (value : ν) : Dict κ ν :=
  ⟨Assoc.set d.entries key value, Assoc.set_nodup d.nodup key value⟩

/-- `d.pop(key, None)`. -/
def erase (d : Dict κ ν) (key : κ) : Dict κ ν :=
  ⟨d.entries.filter (fun entry => entry.1 ≠ key),
    d.nodup.sublist (List.filter_sublist.map Prod.fst)⟩

def modify (d : Dict κ ν) (key : κ) (f : ν → ν) : Dict κ ν :=
  match d.get? key with
  | none => d
  | some value => d.set key (f value)

def mapValues (d : Dict κ ν) (f : κ → ν → ν) : Dict κ ν where
  entries := d.entries.map fun entry => (entry.1, f entry.1 entry.2)
  nodup := by
    rw [List.map_map]
    exact d.nodup

theorem mem_entries_iff (d : Dict κ ν) {key : κ} {value : ν} : (key, value) ∈ d.entries ↔ d.get? key = some value := by
  obtain ⟨entries, nodup⟩ := d
  change (key, value) ∈ entries ↔ entries.lookup key = some value
  induction entries with
  | nil => simp
  | cons entry rest ih =>
    obtain ⟨k, v⟩ := entry
    rw [List.map_cons, List.nodup_cons] at nodup
    rw [List.mem_cons, Assoc.lookup_cons]
    by_cases here : key = k
    · subst here
      have absent : (key, value) ∉ rest := fun member => nodup.1 (List.mem_map.mpr ⟨_, member, rfl⟩)
      simp [absent, eq_comm]
    · rw [if_neg here, ← ih nodup.2]
      simp [here]

omit [DecidableEq κ] in
theorem entries_nodup (d : Dict κ ν) : d.entries.Nodup := List.Nodup.of_map Prod.fst d.nodup

theorem entries_perm {d e : Dict κ ν} (same : ∀ key, d.get? key = e.get? key) : d.entries.Perm e.entries := by
  apply (List.perm_ext_iff_of_nodup d.entries_nodup e.entries_nodup).mpr
  intro entry
  rw [show entry = (entry.1, entry.2) from rfl, mem_entries_iff, mem_entries_iff, same]

theorem get?_set (d : Dict κ ν) (key other : κ) (value : ν) :
    (d.set key value).get? other = if other = key then some value else d.get? other :=
  Assoc.lookup_set d.entries key other value

@[simp] theorem get?_set_self (d : Dict κ ν) (key : κ) (value : ν) :
    (d.set key value).get? key = some value := by
  simp [get?_set]

@[simp] theorem get?_set_of_ne (d : Dict κ ν) {key other : κ} (value : ν) (ne : other ≠ key) :
    (d.set key value).get? other = d.get? other := by
  simp [get?_set, ne]

theorem get?_erase (d : Dict κ ν) (key other : κ) :
    (d.erase key).get? other = if other = key then none else d.get? other :=
  Assoc.lookup_filter_ne d.entries key other

theorem get?_mapValues (d : Dict κ ν) (f : κ → ν → ν) (key : κ) :
    (d.mapValues f).get? key = (d.get? key).map (f key) := by
  obtain ⟨entries, nodup⟩ := d
  change (entries.map fun entry => (entry.1, f entry.1 entry.2)).lookup key = (entries.lookup key).map (f key)
  clear nodup
  induction entries with
  | nil => rfl
  | cons entry rest ih =>
    obtain ⟨k, v⟩ := entry
    rw [List.map_cons, Assoc.lookup_cons, Assoc.lookup_cons, ih]
    by_cases here : key = k
    · rw [if_pos here, if_pos here, here]
      rfl
    · rw [if_neg here, if_neg here]

theorem get?_modify (d : Dict κ ν) (key other : κ) (f : ν → ν) :
    (d.modify key f).get? other = if other = key then (d.get? other).map f else d.get? other := by
  unfold modify
  by_cases same : other = key
  · subst same
    cases held : d.get? other <;> simp [held]
  · cases held : d.get? key <;> simp [same]

@[simp] theorem get?_modify_self (d : Dict κ ν) (key : κ) (f : ν → ν) :
    (d.modify key f).get? key = (d.get? key).map f := by
  simp [get?_modify]

@[simp] theorem get?_modify_of_ne (d : Dict κ ν) {key other : κ} (f : ν → ν) (ne : other ≠ key) :
    (d.modify key f).get? other = d.get? other := by
  simp [get?_modify, ne]

end Dict

end Py
