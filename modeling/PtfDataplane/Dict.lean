/-
Python dictionaries, as the dataplane engine uses them.

A `Dict κ ν` is the list of a `dict`'s entries in insertion order.  Its keys are
distinct, and that is a field of the structure, so a dictionary with a repeated key
cannot be built.  `d[k] = v` replaces the value of a present key in place and appends
a new key at the end; `del d[k]` drops the entry.  This is the order in which
`list(d.keys())` and `list(d.items())` walk the dictionary, which `flush` and
`oldest_port_number` depend on.

* `get?_set`, `get?_erase` — reading a key after a write;
* `keys_set_of_mem`, `keys_set_of_not_mem`, `keys_erase` — the key list after a write;
* `get?_eq_some_iff_mem` — the entry a loop over `items()` meets is the one `d[k]` reads;
* `get?_assignAll` — the loop `for k in ks: d[k] = v`.
-/
import Mathlib.Data.List.Nodup

namespace PtfDataplane

variable {κ ν : Type} [DecidableEq κ]

/-- `d[k] = v` on an entry list: replace the first entry with key `k`, or append. -/
def assign (k : κ) (v : ν) : List (κ × ν) → List (κ × ν)
  | [] => [(k, v)]
  | e :: rest => if e.1 = k then (k, v) :: rest else e :: assign k v rest

theorem map_fst_assign (k : κ) (v : ν) (l : List (κ × ν)) :
    (assign k v l).map Prod.fst =
      if k ∈ l.map Prod.fst then l.map Prod.fst else l.map Prod.fst ++ [k] := by
  induction l with
  | nil => simp [assign]
  | cons e rest ih =>
    by_cases h : e.1 = k
    · simp [assign, h]
    · by_cases hk : k ∈ rest.map Prod.fst <;>
        simp_all [assign, eq_comm]

theorem lookup_cons_of_ne {k a : κ} (b : ν) (es : List (κ × ν)) (h : k ≠ a) :
    ((a, b) :: es).lookup k = es.lookup k := by
  simp [List.lookup_cons, beq_eq_false_iff_ne.mpr h]

theorem lookup_assign (k : κ) (v : ν) (l : List (κ × ν)) (k' : κ) :
    (assign k v l).lookup k' = if k' = k then some v else l.lookup k' := by
  induction l with
  | nil => by_cases h : k' = k <;> simp [assign, lookup_cons_of_ne, h]
  | cons e rest ih =>
    obtain ⟨a, b⟩ := e
    by_cases h : a = k
    · subst h
      by_cases h' : k' = a <;> simp [assign, lookup_cons_of_ne, h']
    · by_cases h' : k' = a
      · subst h'; simp [assign, h]
      · simp only [assign, h, if_false, lookup_cons_of_ne _ _ h', ih]

theorem lookup_filter_ne (k : κ) (l : List (κ × ν)) (k' : κ) :
    (l.filter (fun e => e.1 ≠ k)).lookup k' = if k' = k then none else l.lookup k' := by
  induction l with
  | nil => simp
  | cons e rest ih =>
    obtain ⟨a, b⟩ := e
    rw [List.filter_cons]
    by_cases h : a = k
    · subst h
      simp only [ne_eq, not_true_eq_false, decide_False, Bool.false_eq_true, if_false, ih]
      by_cases h' : k' = a
      · simp [h']
      · simp [h', lookup_cons_of_ne _ _ h']
    · simp only [ne_eq, h, not_false_eq_true, decide_True, if_true]
      by_cases h' : k' = a
      · subst h'; simp [h]
      · simp only [lookup_cons_of_ne _ _ h', ih]

/-- A Python `dict`: its entries in insertion order, with distinct keys. -/
structure Dict (κ ν : Type) where
  entries : List (κ × ν)
  nodup : (entries.map Prod.fst).Nodup

namespace Dict

/-- `{}`. -/
def empty : Dict κ ν := ⟨[], List.nodup_nil⟩

/-- `list(d.keys())`. -/
def keys (d : Dict κ ν) : List κ := d.entries.map Prod.fst

/-- `d[k]`, with `none` where Python raises `KeyError`. -/
def get? (d : Dict κ ν) (k : κ) : Option ν := d.entries.lookup k

/-- `d[k] = v`. -/
def set (d : Dict κ ν) (k : κ) (v : ν) : Dict κ ν :=
  ⟨assign k v d.entries, by
    rw [map_fst_assign]
    split
    · exact d.nodup
    · exact d.nodup.append (List.nodup_singleton k) (List.disjoint_singleton.mpr ‹_›)⟩

/-- `del d[k]` (callers check that `k` is present). -/
def erase (d : Dict κ ν) (k : κ) : Dict κ ν :=
  ⟨d.entries.filter (fun e => e.1 ≠ k), (d.nodup.sublist ((List.filter_sublist _).map _))⟩

/-- The loop `for k in ks: d[k] = v`. -/
def assignAll (d : Dict κ ν) (ks : List κ) (v : ν) : Dict κ ν :=
  ks.foldl (fun d k => d.set k v) d

@[simp] theorem get?_empty (k : κ) : (empty : Dict κ ν).get? k = none := rfl

theorem get?_set (d : Dict κ ν) (k : κ) (v : ν) (k' : κ) :
    (d.set k v).get? k' = if k' = k then some v else d.get? k' :=
  lookup_assign k v d.entries k'

@[simp] theorem get?_set_self (d : Dict κ ν) (k : κ) (v : ν) : (d.set k v).get? k = some v := by
  simp [get?_set]

@[simp] theorem get?_set_ne (d : Dict κ ν) {k k' : κ} (v : ν) (h : k' ≠ k) :
    (d.set k v).get? k' = d.get? k' := by
  simp [get?_set, h]

theorem get?_erase (d : Dict κ ν) (k k' : κ) :
    (d.erase k).get? k' = if k' = k then none else d.get? k' :=
  lookup_filter_ne k d.entries k'

@[simp] theorem get?_erase_self (d : Dict κ ν) (k : κ) : (d.erase k).get? k = none := by
  simp [get?_erase]

@[simp] theorem get?_erase_ne (d : Dict κ ν) {k k' : κ} (h : k' ≠ k) :
    (d.erase k).get? k' = d.get? k' := by
  simp [get?_erase, h]

theorem mem_keys_iff (d : Dict κ ν) (k : κ) : k ∈ d.keys ↔ (d.get? k).isSome := by
  simp only [keys, get?, List.mem_map, List.lookup_isSome_iff, beq_iff_eq]
  exact ⟨fun ⟨p, hp, he⟩ => ⟨p, hp, he.symm⟩, fun ⟨p, hp, he⟩ => ⟨p, hp, he.symm⟩⟩

theorem get?_eq_none_iff (d : Dict κ ν) (k : κ) : d.get? k = none ↔ k ∉ d.keys := by
  rw [mem_keys_iff]; cases d.get? k <;> simp

theorem keys_set_of_mem (d : Dict κ ν) {k : κ} (v : ν) (h : k ∈ d.keys) :
    (d.set k v).keys = d.keys := by
  simp only [keys, set, map_fst_assign]; exact if_pos h

theorem keys_set_of_not_mem (d : Dict κ ν) {k : κ} (v : ν) (h : k ∉ d.keys) :
    (d.set k v).keys = d.keys ++ [k] := by
  simp only [keys, set, map_fst_assign]; exact if_neg h

theorem mem_keys_set (d : Dict κ ν) (k v) (k' : κ) : k' ∈ (d.set k v).keys ↔ k' = k ∨ k' ∈ d.keys := by
  simp only [mem_keys_iff, get?_set]; split <;> simp_all

theorem mem_keys_erase (d : Dict κ ν) (k k' : κ) : k' ∈ (d.erase k).keys ↔ k' ≠ k ∧ k' ∈ d.keys := by
  simp only [mem_keys_iff, get?_erase]; split <;> simp_all

theorem keys_erase (d : Dict κ ν) (k : κ) : (d.erase k).keys = d.keys.filter (· ≠ k) := by
  simp [keys, erase, List.filter_map, Function.comp_def]

/-- With distinct keys, an entry met while walking `items()` is what `d[k]` reads. -/
theorem get?_eq_some_iff_mem (d : Dict κ ν) (k : κ) (v : ν) :
    d.get? k = some v ↔ (k, v) ∈ d.entries := by
  obtain ⟨l, nd⟩ := d
  simp only [get?]
  induction l with
  | nil => simp
  | cons e rest ih =>
    obtain ⟨a, b⟩ := e
    simp only [List.map_cons, List.nodup_cons, List.mem_map] at nd
    rw [List.mem_cons]
    by_cases h : k = a
    · subst h
      simp only [List.lookup_cons_self, Option.some.injEq, Prod.mk.injEq, true_and]
      constructor
      · exact fun hv => Or.inl hv.symm
      · rintro (hv | hv)
        · exact hv.symm
        · exact absurd ⟨_, hv, rfl⟩ nd.1
    · simp [lookup_cons_of_ne _ _ h, h, ih nd.2]

theorem get?_assignAll (d : Dict κ ν) (ks : List κ) (v : ν) (k : κ) :
    (d.assignAll ks v).get? k = if k ∈ ks then some v else d.get? k := by
  induction ks generalizing d with
  | nil => simp [assignAll]
  | cons a rest ih =>
    simp only [assignAll, List.foldl_cons] at ih ⊢
    rw [ih, get?_set]
    by_cases h : k ∈ rest <;> by_cases h' : k = a <;> simp [h, h']

/-- Assigning under keys the dictionary already has keeps its key list. -/
theorem keys_assignAll_of_subset (d : Dict κ ν) (ks : List κ) (v : ν)
    (h : ∀ k ∈ ks, k ∈ d.keys) : (d.assignAll ks v).keys = d.keys := by
  induction ks generalizing d with
  | nil => rfl
  | cons a rest ih =>
    have ha := h a (List.mem_cons_self _ _)
    have hset := keys_set_of_mem d v ha
    simp only [assignAll, List.foldl_cons] at ih ⊢
    rw [ih (d.set a v) (fun k hk => hset ▸ h k (List.mem_cons_of_mem _ hk)), hset]

theorem mem_keys_assignAll (d : Dict κ ν) (ks : List κ) (v : ν) (k : κ) :
    k ∈ (d.assignAll ks v).keys ↔ k ∈ ks ∨ k ∈ d.keys := by
  simp only [mem_keys_iff, get?_assignAll]; split <;> simp_all

end Dict

end PtfDataplane
