import RadixWalletKit.Basic
import Mathlib.Data.List.Nodup

/-!
# Identified vectors

`IdentifiedVecOf` of the `identified_vec` crate, which the profile uses for its factor
sources, its networks and the accounts of each network: an ordered list whose elements
have pairwise distinct ids.  Distinctness is a field of the structure, so each operation
below carries the proof that it keeps it, and no later proof has to.

The crate stores an element under the id it had when inserted; `replace` stores an element
under its own id.  The two agree for every mutation in this code base, since none of them
changes an id.
-/

namespace RadixWalletKit

/-- An ordered collection of elements with pairwise distinct `id`s. -/
structure IdentifiedVec {α κ : Type} (id : α → κ) where
  elements : List α
  nodup : (elements.map id).Nodup

namespace IdentifiedVec

variable {α κ : Type} {id : α → κ}

@[ext] theorem ext {v w : IdentifiedVec id} (h : v.elements = w.elements) : v = w := by
  cases v
  cases w
  cases h
  rfl

instance [DecidableEq α] : DecidableEq (IdentifiedVec id) := fun v w =>
  decidable_of_iff (v.elements = w.elements) ⟨ext, fun h => h ▸ rfl⟩

/-- The ids of the elements, in order. -/
def ids (v : IdentifiedVec id) : List κ := v.elements.map id

/-- The empty collection. -/
def empty : IdentifiedVec id := ⟨[], List.nodup_nil⟩

/-- `len`. -/
def len (v : IdentifiedVec id) : Nat := v.elements.length

@[simp] theorem empty_elements : (empty : IdentifiedVec id).elements = [] := rfl

theorem ids_nodup (v : IdentifiedVec id) : v.ids.Nodup := v.nodup

theorem mem_ids_iff (v : IdentifiedVec id) (k : κ) :
    k ∈ v.ids ↔ ∃ a ∈ v.elements, id a = k := by
  simp [ids]

/-- Two elements with one id are the same element. -/
theorem eq_of_id_eq {v : IdentifiedVec id} {a b : α} (ha : a ∈ v.elements) (hb : b ∈ v.elements)
    (h : id a = id b) : a = b :=
  List.inj_on_of_nodup_map v.nodup ha hb h

variable [DecidableEq κ]

/-- `contains_id`. -/
def containsId (v : IdentifiedVec id) (k : κ) : Bool := decide (k ∈ v.ids)

/-- `get`: the element with id `k`. -/
def get (v : IdentifiedVec id) (k : κ) : Option α := v.elements.find? (fun a => id a = k)

/-- `append`: put `a` at the end unless an element with its id is already there.  Returns
whether `a` was inserted and the index of the element with its id. -/
def append (v : IdentifiedVec id) (a : α) : (Bool × Nat) × IdentifiedVec id :=
  if h : id a ∈ v.ids then ((false, v.ids.indexOf (id a)), v)
  else ((true, v.len), ⟨v.elements ++ [a], by
    simpa [List.nodup_append] using
      And.intro v.nodup fun x hx (hxa : id x = id a) => h (hxa ▸ List.mem_map_of_mem id hx)⟩)

/-- Put `b` in the place of the element with `b`'s id. -/
def replace (v : IdentifiedVec id) (b : α) : IdentifiedVec id :=
  ⟨v.elements.map (fun x => if id x = id b then b else x), by
    have hids : (v.elements.map (fun x => if id x = id b then b else x)).map id = v.ids := by
      simp only [List.map_map, ids]
      exact List.map_congr_left fun x _ => by by_cases h : id x = id b <;> simp [h]
    exact hids ▸ v.nodup⟩

/-- `update_with`: apply `mutate` to the element with id `k`; returns whether there was one. -/
def updateWith (v : IdentifiedVec id) (k : κ) (mutate : α → α) : Bool × IdentifiedVec id :=
  match v.get k with
  | none => (false, v)
  | some a => (true, v.replace (mutate a))

/-- `try_update_with`: apply the fallible `mutate` to the element with id `k`.  Returns
`Ok false` if there is none, and keeps the collection as it was when `mutate` fails. -/
def tryUpdateWith {ε : Type} (v : IdentifiedVec id) (k : κ) (mutate : α → Except ε α) :
    Except ε Bool × IdentifiedVec id :=
  match v.get k with
  | none => (.ok false, v)
  | some a =>
    match mutate a with
    | .error e => (.error e, v)
    | .ok b => (.ok true, v.replace b)

/-- `from_iter`: append the elements of `xs` in order, keeping the first of each id. -/
def fromIter (xs : List α) : IdentifiedVec id :=
  xs.foldl (fun v a => (v.append a).2) empty

theorem containsId_iff (v : IdentifiedVec id) (k : κ) :
    v.containsId k = true ↔ k ∈ v.ids := by
  simp [containsId]

theorem append_of_mem {v : IdentifiedVec id} {a : α} (h : id a ∈ v.ids) :
    v.append a = ((false, v.ids.indexOf (id a)), v) := by
  simp [append, h]

theorem append_of_not_mem {v : IdentifiedVec id} {a : α} (h : id a ∉ v.ids) :
    (v.append a).1.1 = true ∧ (v.append a).2.elements = v.elements ++ [a] := by
  simp [append, h]

theorem append_inserted (v : IdentifiedVec id) (a : α) :
    (v.append a).1.1 = !v.containsId (id a) := by
  by_cases h : id a ∈ v.ids <;> simp [append, containsId, h]

theorem append_elements (v : IdentifiedVec id) (a : α) :
    (v.append a).2.elements = if id a ∈ v.ids then v.elements else v.elements ++ [a] := by
  by_cases h : id a ∈ v.ids <;> simp [append, h]

/-- After `append`, the element's id is present, whether or not it was inserted. -/
theorem mem_ids_append (v : IdentifiedVec id) (a : α) : id a ∈ (v.append a).2.ids := by
  by_cases h : id a ∈ v.ids
  · rwa [append_of_mem h]
  · simp [ids, (append_of_not_mem h).2]

theorem get_eq_some_iff {v : IdentifiedVec id} {k : κ} {a : α} :
    v.get k = some a ↔ a ∈ v.elements ∧ id a = k := by
  constructor
  · intro h
    exact ⟨List.mem_of_find?_eq_some h, by simpa using List.find?_some h⟩
  · rintro ⟨hmem, rfl⟩
    obtain ⟨b, hb⟩ : ∃ b, v.get (id a) = some b := by
      cases hget : v.get (id a) with
      | none => simpa using (List.find?_eq_none.mp hget) a hmem
      | some b => exact ⟨b, rfl⟩
    have hbmem := List.mem_of_find?_eq_some hb
    have hbid : id b = id a := by simpa using List.find?_some hb
    rw [hb, List.inj_on_of_nodup_map v.nodup hbmem hmem hbid]

theorem get_eq_none_iff {v : IdentifiedVec id} {k : κ} : v.get k = none ↔ k ∉ v.ids := by
  simp [get, List.find?_eq_none, mem_ids_iff]

theorem replace_elements (v : IdentifiedVec id) (b : α) :
    (v.replace b).elements = v.elements.map (fun x => if id x = id b then b else x) := rfl

@[simp] theorem replace_ids (v : IdentifiedVec id) (b : α) : (v.replace b).ids = v.ids := by
  simp only [ids, replace_elements, List.map_map]
  exact List.map_congr_left fun x _ => by by_cases h : id x = id b <;> simp [h]

/-- Replacing an element that is there by one of its id changes that element only. -/
theorem replace_of_mem {v : IdentifiedVec id} {a : α} (b : α) (ha : a ∈ v.elements)
    (hb : id b = id a) :
    ∃ pre post, v.elements = pre ++ a :: post ∧ (v.replace b).elements = pre ++ b :: post := by
  obtain ⟨pre, post, hsplit⟩ := List.append_of_mem ha
  have hnotMem : a ∉ pre ++ post :=
    (List.nodup_cons.mp (List.nodup_middle.mp (hsplit ▸ v.nodup.of_map id))).1
  have hkeep : ∀ x ∈ pre ++ post, (if id x = id b then b else x) = x := fun x hx => by
    have hxv : x ∈ v.elements := by rw [hsplit]; simp at hx ⊢; tauto
    exact if_neg fun (h : id x = id b) => hnotMem (eq_of_id_eq hxv ha (h.trans hb) ▸ hx)
  refine ⟨pre, post, hsplit, ?_⟩
  rw [replace_elements, hsplit, List.map_append, List.map_cons, if_pos hb.symm,
    List.map_congr_left fun x hx => hkeep x (List.mem_append_left post hx),
    List.map_congr_left fun x hx => hkeep x (List.mem_append_right pre hx), List.map_id',
    List.map_id']

theorem exists_get_of_mem {v : IdentifiedVec id} {k : κ} (h : k ∈ v.ids) :
    ∃ a, v.get k = some a := by
  cases hget : v.get k with
  | none => exact absurd h (get_eq_none_iff.mp hget)
  | some a => exact ⟨a, rfl⟩

theorem updateWith_of_get {v : IdentifiedVec id} {k : κ} {a : α} (h : v.get k = some a)
    (mutate : α → α) : v.updateWith k mutate = (true, v.replace (mutate a)) := by
  simp only [updateWith, h]

theorem tryUpdateWith_of_get {ε : Type} {v : IdentifiedVec id} {k : κ} {a : α}
    (h : v.get k = some a) (mutate : α → Except ε α) :
    v.tryUpdateWith k mutate =
      match mutate a with
      | .error e => (.error e, v)
      | .ok b => (.ok true, v.replace b) := by
  rw [tryUpdateWith, h]

/-- An id that is present is the id of exactly one element. -/
theorem count_ids_eq_one {v : IdentifiedVec id} {k : κ} (h : k ∈ v.ids) :
    v.ids.count k = 1 :=
  List.count_eq_one_of_mem v.nodup h

@[simp] theorem fromIter_singleton (a : α) : (fromIter [a] : IdentifiedVec id).elements = [a] := by
  simp [fromIter, append, ids]

theorem fromIter_eq_nil_iff (xs : List α) :
    (fromIter xs : IdentifiedVec id).elements = [] ↔ xs = [] := by
  suffices ∀ (w : IdentifiedVec id),
      (xs.foldl (fun v a => (v.append a).2) w).elements = [] ↔ w.elements = [] ∧ xs = [] by
    simpa using this empty
  induction xs with
  | nil => simp
  | cons a xs ih =>
    intro w
    rw [List.foldl_cons, ih, append_elements]
    by_cases h : id a ∈ w.ids
    · obtain ⟨b, hb, -⟩ := (mem_ids_iff w _).mp h
      simp [h, List.ne_nil_of_mem hb]
    · simp [h]

end IdentifiedVec

end RadixWalletKit
