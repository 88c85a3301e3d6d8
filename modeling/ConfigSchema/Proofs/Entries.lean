import ConfigSchema.SortedMap
import Mathlib.Data.List.Nodup
import Mathlib.Data.List.Perm.Basic

/-! Lists of entries whose keys are distinct. Such a list is read by key alone, whatever its order, and there is
one map in the order of the keys for all its orders. -/

namespace ConfigSchema

/-- What is in a collection after some additions was there before or was added. -/
theorem mem_foldl {α β : Type} (view : β → List α) {add : β → α → β}
    (step : ∀ known entry found, found ∈ view (add known entry) → found = entry ∨ found ∈ view known)
    {entries : List α} {start : β} {found : α} (member : found ∈ view (entries.foldl add start)) :
    found ∈ view start ∨ found ∈ entries := by
  induction entries generalizing start with
  | nil => exact .inl member
  | cons entry rest ih =>
    rcases ih member with early | later
    · rcases step start entry found early with rfl | known
      · exact .inr (List.mem_cons_self ..)
      · exact .inl known
    · exact .inr (List.mem_cons_of_mem _ later)

namespace Keyed

variable {κ α : Type} [DecidableEq κ]

theorem find?_append (key : κ) (first second : List (κ × α)) :
    find? key (first ++ second) = (find? key first).or (find? key second) := by
  induction first with
  | nil => rfl
  | cons entry rest ih =>
    by_cases same : entry.1 = key <;> simp [find?, same, ih]

theorem find?_cons (key other : κ) (value : α) (rest : List (κ × α)) :
    find? key ((other, value) :: rest) = if other = key then some value else find? key rest := rfl

omit [DecidableEq κ] in
theorem keys_append (first second : List (κ × α)) : keys (first ++ second) = keys first ++ keys second :=
  List.map_append

omit [DecidableEq κ] in
theorem ne_of_mem_after {before after : List (κ × α)} {key : κ} {value : α} {later : κ × α}
    (distinct : (keys (before ++ (key, value) :: after)).Nodup) (member : later ∈ after) : later.1 ≠ key := by
  rw [keys_append] at distinct
  have fresh : key ∉ keys after := (List.nodup_cons.mp (List.nodup_append.mp distinct).2.1).1
  exact fun same => fresh (same ▸ List.mem_map_of_mem member)

theorem mem_of_find? {entries : List (κ × α)} {key : κ} {value : α} (found : find? key entries = some value) :
    (key, value) ∈ entries := by
  induction entries with
  | nil => cases found
  | cons entry rest ih =>
    unfold find? at found
    split at found
    · rename_i same
      cases found
      exact same ▸ List.mem_cons_self ..
    · exact List.mem_cons_of_mem _ (ih found)

theorem find?_eq_some_iff {entries : List (κ × α)} (distinct : (keys entries).Nodup) {key : κ} {value : α} :
    find? key entries = some value ↔ (key, value) ∈ entries := by
  induction entries with
  | nil => simp [find?]
  | cons entry rest ih =>
    obtain ⟨other, old⟩ := entry
    obtain ⟨absent, later⟩ := List.nodup_cons.mp distinct
    rw [find?_cons]
    by_cases same : other = key
    · subst same
      have elsewhere : (other, value) ∉ rest := fun member => absent (List.mem_map.mpr ⟨_, member, rfl⟩)
      simp [elsewhere, eq_comm]
    · rw [if_neg same, ih later]
      simp [Ne.symm same]

theorem mem_put {key : κ} {value : α} {entries : List (κ × α)} {entry : κ × α} (member : entry ∈ put key value entries) :
    entry = (key, value) ∨ entry ∈ entries := by
  induction entries with
  | nil => exact .inl (List.mem_singleton.mp member)
  | cons first rest ih =>
    obtain ⟨other, old⟩ := first
    rw [put] at member
    split at member
    · rename_i same
      subst same
      exact (List.mem_cons.mp member).imp_right (List.mem_cons_of_mem _)
    · rcases List.mem_cons.mp member with same | later
      · exact .inr (same ▸ List.mem_cons_self ..)
      · exact (ih later).imp_right (List.mem_cons_of_mem _)

theorem put_append {key : κ} (value : α) {front : List (κ × α)} (absent : key ∉ keys front)
    (rest : List (κ × α)) : put key value (front ++ rest) = front ++ put key value rest := by
  induction front with
  | nil => rfl
  | cons entry later ih =>
    obtain ⟨other, old⟩ := entry
    have different : other ≠ key := fun same => absent (by simp [keys, same])
    have further : key ∉ keys later := fun member => absent (List.mem_cons_of_mem _ member)
    rw [List.cons_append, put, if_neg different, ih further, List.cons_append]

theorem put_of_not_mem {key : κ} (value : α) {entries : List (κ × α)} (absent : key ∉ keys entries) :
    put key value entries = entries ++ [(key, value)] := by
  have appended := put_append value absent []
  rwa [List.append_nil] at appended

theorem mem_ofList {entries : List (κ × α)} {entry : κ × α} (member : entry ∈ ofList entries) : entry ∈ entries := by
  rcases mem_foldl id (fun _ _ _ => mem_put) member with nowhere | listed
  · cases nowhere
  · exact listed

/-- Members with different names stay as they are. -/
theorem ofList_of_nodup {entries : List (κ × α)} (distinct : (keys entries).Nodup) : ofList entries = entries := by
  have gathered : ∀ known rest : List (κ × α), (keys (known ++ rest)).Nodup →
      rest.foldl (fun known entry => put entry.1 entry.2 known) known = known ++ rest := by
    intro known rest
    induction rest generalizing known with
    | nil => simp
    | cons entry rest ih =>
      intro distinct
      have absent : entry.1 ∉ keys known := by
        rw [keys_append] at distinct
        exact fun member => (List.nodup_append.mp distinct).2.2 _ member _ (List.mem_cons_self ..) rfl
      rw [List.foldl_cons, put_of_not_mem entry.2 absent, ih]
      · simp
      · simpa using distinct
  exact gathered [] entries distinct

theorem swapErase_append {key : κ} {front : List (κ × α)} (absent : key ∉ keys front) (rest : List (κ × α)) :
    swapErase key (front ++ rest) = front ++ swapErase key rest := by
  induction front with
  | nil => rfl
  | cons entry later ih =>
    obtain ⟨other, old⟩ := entry
    have different : other ≠ key := fun same => absent (by simp [keys, same])
    have further : key ∉ keys later := fun member => absent (List.mem_cons_of_mem _ member)
    rw [List.cons_append, swapErase, if_neg different, ih further, List.cons_append]

end Keyed

namespace SortedMap

open scoped List

variable {α : Type}

theorem place_perm {key : String} (value : α) {entries : List (String × α)}
    (absent : key ∉ Keyed.keys entries) : (place key value entries).Perm ((key, value) :: entries) := by
  induction entries with
  | nil => exact .refl _
  | cons entry rest ih =>
    obtain ⟨other, old⟩ := entry
    have different : other ≠ key := fun same => absent (by simp [Keyed.keys, same])
    have later : key ∉ Keyed.keys rest := fun member => absent (List.mem_cons_of_mem _ member)
    unfold place
    split
    · exact .refl _
    · calc (other, old) :: place key value rest
          _ ~ (other, old) :: (key, value) :: rest := (ih later).cons _
          _ ~ (key, value) :: (other, old) :: rest := .swap ..

theorem ofList_perm {entries : List (String × α)} (distinct : (Keyed.keys entries).Nodup) :
    (ofList entries).entries.Perm entries := by
  have gathered : ∀ (rest : List (String × α)) (map : SortedMap α),
      (Keyed.keys (map.entries ++ rest)).Nodup →
      (rest.foldl (fun map entry => map.insert entry.1 entry.2) map).entries.Perm (map.entries ++ rest) := by
    intro rest
    induction rest with
    | nil => intro map _; simp
    | cons entry rest ih =>
      intro map distinct
      have absent : entry.1 ∉ Keyed.keys map.entries := by
        rw [Keyed.keys_append] at distinct
        exact fun member => (List.nodup_append.mp distinct).2.2 _ member _ (List.mem_cons_self ..) rfl
      have placed : (map.insert entry.1 entry.2).entries.Perm (entry :: map.entries) :=
        place_perm entry.2 absent
      have shifted : ((map.insert entry.1 entry.2).entries ++ rest).Perm (map.entries ++ entry :: rest) :=
        calc (map.insert entry.1 entry.2).entries ++ rest
          _ ~ entry :: map.entries ++ rest := placed.append_right rest
          _ ~ map.entries ++ entry :: rest := List.perm_middle.symm
      rw [List.foldl_cons]
      exact (ih _ ((shifted.map Prod.fst).nodup_iff.mpr distinct)).trans shifted
  exact gathered entries empty distinct

theorem mem_of_mem_ofList {entries : List (String × α)} {entry : String × α}
    (member : entry ∈ (ofList entries).entries) : entry ∈ entries := by
  rcases mem_foldl SortedMap.entries (fun _ _ _ => mem_place) member with nowhere | listed
  · cases nowhere
  · exact listed

theorem mem_keys_place {key sought : String} {value : α} {entries : List (String × α)} :
    sought ∈ Keyed.keys (place key value entries) ↔ sought = key ∨ sought ∈ Keyed.keys entries := by
  induction entries with
  | nil => simp [place, Keyed.keys]
  | cons entry rest ih =>
    obtain ⟨other, old⟩ := entry
    simp only [Keyed.keys] at ih ⊢
    unfold place
    split_ifs with before same
    · simp
    · simp [same]
    · simp only [List.map_cons, List.mem_cons, ih]
      exact or_left_comm

/-- A map has the keys of the list it is made of, also if the list repeats some. -/
theorem mem_keys_ofList {key : String} (entries : List (String × α)) :
    key ∈ (ofList entries).keys ↔ key ∈ Keyed.keys entries := by
  have gathered : ∀ (rest : List (String × α)) (map : SortedMap α),
      key ∈ (rest.foldl (fun map entry => map.insert entry.1 entry.2) map).keys ↔
        key ∈ map.keys ∨ key ∈ Keyed.keys rest := by
    intro rest
    induction rest with
    | nil => simp [Keyed.keys]
    | cons entry rest ih =>
      intro map
      have placed : key ∈ (map.insert entry.1 entry.2).keys ↔ key = entry.1 ∨ key ∈ map.keys := mem_keys_place
      have listed : key ∈ Keyed.keys (entry :: rest) ↔ key = entry.1 ∨ key ∈ Keyed.keys rest := List.mem_cons
      rw [List.foldl_cons, ih, placed, listed, or_assoc]
      exact or_left_comm
  exact (gathered entries empty).trans (by simp [keys, empty, Keyed.keys])

theorem keys_nodup (map : SortedMap α) : (Keyed.keys map.entries).Nodup := by
  refine List.pairwise_map.mpr (map.sorted.imp ?_)
  intro first second before same
  exact String.lt_irrefl _ (same ▸ before)

theorem keys_sorted (map : SortedMap α) : map.keys.Pairwise (· < ·) := List.pairwise_map.mpr map.sorted

/-- Maps with the same keys list them in the same order, whatever their values are. -/
theorem keys_eq_of_perm {β : Type} {first : SortedMap α} {second : SortedMap β} (same : first.keys.Perm second.keys) :
    first.keys = second.keys := by
  refine same.eq_of_pairwise ?_ first.keys_sorted second.keys_sorted
  intro left right _ _ before after
  exact absurd (String.lt_trans before after) (String.lt_irrefl _)

theorem eq_of_perm {first second : SortedMap α} (same : first.entries.Perm second.entries) : first = second := by
  refine ext (same.eq_of_pairwise ?_ first.sorted second.sorted)
  intro left right _ _ before after
  exact absurd (String.lt_trans before after) (String.lt_irrefl _)

@[simp] theorem ofList_entries (map : SortedMap α) : ofList map.entries = map :=
  eq_of_perm (ofList_perm map.keys_nodup)

theorem ofList_eq_of_perm {first second : List (String × α)} (distinct : (Keyed.keys first).Nodup)
    (same : first.Perm second) : ofList first = ofList second :=
  eq_of_perm <| calc (ofList first).entries
    _ ~ first := ofList_perm distinct
    _ ~ second := same
    _ ~ (ofList second).entries := (ofList_perm ((same.map Prod.fst).nodup_iff.mp distinct)).symm

theorem get?_eq_some_iff (map : SortedMap α) {key : String} {value : α} :
    map.get? key = some value ↔ (key, value) ∈ map.entries :=
  Keyed.find?_eq_some_iff map.keys_nodup

theorem eq_of_get? {first second : SortedMap α} (same : ∀ key, first.get? key = second.get? key) : first = second := by
  have nodup : ∀ map : SortedMap α, map.entries.Nodup := fun map => .of_map Prod.fst map.keys_nodup
  refine eq_of_perm ((List.perm_ext_iff_of_nodup (nodup first) (nodup second)).mpr ?_)
  rintro ⟨key, value⟩
  rw [← get?_eq_some_iff, ← get?_eq_some_iff, same]

end SortedMap

end ConfigSchema
