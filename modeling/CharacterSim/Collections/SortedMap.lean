/-! Finite maps kept as lists in strictly ascending key order. Two maps that bind the same keys to
the same values are equal (`SortedMap.ext_get?`), so equality of states can be read off look-ups. -/

namespace CharacterSim

/-- A key type with a faithful place in the natural numbers, by which its values are ordered. -/
class Ranked (κ : Type) where
  rank : κ → Nat
  rank_injective : ∀ {first second : κ}, rank first = rank second → first = second

export Ranked (rank)

theorem rank_inj {κ : Type} [Ranked κ] {first second : κ} :
    rank first = rank second ↔ first = second :=
  ⟨Ranked.rank_injective, fun h => h ▸ rfl⟩

instance (priority := low) Ranked.decidableEq {κ : Type} [Ranked κ] : DecidableEq κ :=
  fun _ _ => decidable_of_iff _ rank_inj

instance : Ranked Nat := ⟨id, id⟩

/-- Signed numbers, counted from the least. -/
instance : Ranked Int64 where
  rank key := (key.toInt - Int64.minValue.toInt).toNat
  rank_injective := by
    intro first second h
    have hleast : Int64.minValue.toInt = -2 ^ 63 := rfl
    have hfirst := first.le_toInt
    have hsecond := second.le_toInt
    exact Int64.toInt_inj.1 (by omega)

/-- A finite map whose bindings stand in ascending order of their keys, each key once. -/
structure SortedMap (κ : Type) [Ranked κ] (α : Type) where
  entries : List (κ × α)
  ascending : entries.Pairwise fun lower upper => rank lower.1 < rank upper.1

namespace SortedMap

variable {κ : Type} [Ranked κ] {α β : Type}

theorem eq_of_entries {first second : SortedMap κ α} (h : first.entries = second.entries) :
    first = second := by
  cases first; cases second; cases h; rfl

/-! ### Bindings of a list -/

/-- The value bound to `key` by the first entry that has it. -/
def lookupEntry (key : κ) : List (κ × α) → Option α
  | [] => none
  | entry :: rest => if rank key = rank entry.1 then some entry.2 else lookupEntry key rest

/-- Puts a binding at its place in an ascending list, over any binding the key had. -/
def insertEntry (key : κ) (value : α) : List (κ × α) → List (κ × α)
  | [] => [(key, value)]
  | entry :: rest =>
    if rank key < rank entry.1 then (key, value) :: entry :: rest
    else if rank key = rank entry.1 then (key, value) :: rest
    else entry :: insertEntry key value rest

theorem lookupEntry_insertEntry_self (key : κ) (value : α) (list : List (κ × α)) :
    lookupEntry key (insertEntry key value list) = some value := by
  induction list with
  | nil => simp [insertEntry, lookupEntry]
  | cons entry rest ih =>
    rw [insertEntry]
    split
    · simp [lookupEntry]
    · split
      · simp [lookupEntry]
      · simp [lookupEntry, *]

theorem lookupEntry_insertEntry_of_ne {key other : κ} (h : other ≠ key) (value : α)
    (list : List (κ × α)) :
    lookupEntry other (insertEntry key value list) = lookupEntry other list := by
  have hrank : rank other ≠ rank key := fun e => h (rank_inj.1 e)
  induction list with
  | nil => simp [insertEntry, lookupEntry, hrank]
  | cons entry rest ih =>
    rw [insertEntry]
    split
    · simp [lookupEntry, hrank]
    · split
      · next heq => simp [lookupEntry, hrank, ← heq]
      · simp [lookupEntry, ih]

theorem mem_insertEntry {key : κ} {value : α} {entry : κ × α} {list : List (κ × α)}
    (h : entry ∈ insertEntry key value list) : entry = (key, value) ∨ entry ∈ list := by
  induction list with
  | nil => simp_all [insertEntry]
  | cons head rest ih =>
    rw [insertEntry] at h
    split at h
    · simpa using h
    · split at h
      · rcases List.mem_cons.1 h with h | h
        · exact .inl h
        · exact .inr (List.mem_cons_of_mem _ h)
      · rcases List.mem_cons.1 h with h | h
        · exact .inr (h ▸ List.mem_cons_self)
        · exact (ih h).imp_right (List.mem_cons_of_mem _)

theorem insertEntry_ascending (key : κ) (value : α) {list : List (κ × α)}
    (h : list.Pairwise fun lower upper => rank lower.1 < rank upper.1) :
    (insertEntry key value list).Pairwise fun lower upper => rank lower.1 < rank upper.1 := by
  induction list with
  | nil => simp [insertEntry]
  | cons head rest ih =>
    obtain ⟨hhead, hrest⟩ := List.pairwise_cons.1 h
    rw [insertEntry]
    split
    · next hlt =>
      refine List.pairwise_cons.2 ⟨fun entry hmem => ?_, h⟩
      rcases List.mem_cons.1 hmem with rfl | hmem
      · exact hlt
      · exact Nat.lt_trans hlt (hhead entry hmem)
    · split
      · next heq =>
        exact List.pairwise_cons.2 ⟨fun entry hmem => heq ▸ hhead entry hmem, hrest⟩
      · refine List.pairwise_cons.2 ⟨fun entry hmem => ?_, ih hrest⟩
        rcases mem_insertEntry hmem with rfl | hmem
        · show rank head.1 < rank key
          omega
        · exact hhead entry hmem

theorem lookupEntry_eq_some_iff {key : κ} {value : α} {list : List (κ × α)}
    (h : list.Pairwise fun lower upper => rank lower.1 < rank upper.1) :
    lookupEntry key list = some value ↔ (key, value) ∈ list := by
  induction list with
  | nil => simp [lookupEntry]
  | cons head rest ih =>
    obtain ⟨hhead, hrest⟩ := List.pairwise_cons.1 h
    rw [lookupEntry]
    split
    · next heq =>
      have hkey : key = head.1 := rank_inj.1 heq
      subst hkey
      constructor
      · rintro ⟨⟩
        exact List.mem_cons_self
      · intro hmem
        rcases List.mem_cons.1 hmem with hmem | hmem
        · rw [← hmem]
        · exact absurd (hhead _ hmem) (Nat.lt_irrefl _)
    · next hne =>
      rw [ih hrest, List.mem_cons]
      constructor
      · exact .inr
      · rintro (hmem | hmem)
        · exact absurd (by rw [← hmem]) hne
        · exact hmem

/-! ### Maps -/

/-- The map that binds nothing. -/
def empty : SortedMap κ α := ⟨[], .nil⟩

instance : EmptyCollection (SortedMap κ α) := ⟨empty⟩

instance : Inhabited (SortedMap κ α) := ⟨empty⟩

/-- The value bound to `key`, if there is one. -/
def get? (map : SortedMap κ α) (key : κ) : Option α := lookupEntry key map.entries

/-- Whether `key` is bound. -/
def contains (map : SortedMap κ α) (key : κ) : Bool := (map.get? key).isSome

/-- The map with `key` bound to `value`, whatever it was bound to. -/
def insert (map : SortedMap κ α) (key : κ) (value : α) : SortedMap κ α :=
  ⟨insertEntry key value map.entries, insertEntry_ascending key value map.ascending⟩

/-- The map without a binding of `key`. -/
def erase (map : SortedMap κ α) (key : κ) : SortedMap κ α :=
  ⟨map.entries.filter fun entry => rank entry.1 ≠ rank key, map.ascending.filter _⟩

/-- The map with every value replaced by its image. -/
def mapValues (map : SortedMap κ α) (change : κ → α → β) : SortedMap κ β :=
  ⟨map.entries.map fun entry => (entry.1, change entry.1 entry.2),
    List.pairwise_map.2 map.ascending⟩

/-- The bound keys in ascending order. -/
def keys (map : SortedMap κ α) : List κ := map.entries.map Prod.fst

/-- The values in ascending order of their keys. -/
def values (map : SortedMap κ α) : List α := map.entries.map Prod.snd

/-- The number of bindings. -/
def size (map : SortedMap κ α) : Nat := map.entries.length

/-- Whether nothing is bound. -/
def isEmpty (map : SortedMap κ α) : Bool := map.entries.isEmpty

/-- The bindings of a list, a later one of a key over an earlier. -/
def ofList (list : List (κ × α)) : SortedMap κ α :=
  list.foldl (fun map entry => map.insert entry.1 entry.2) empty

@[simp] theorem get?_empty (key : κ) : (empty : SortedMap κ α).get? key = none := rfl

@[simp] theorem get?_insert_self (map : SortedMap κ α) (key : κ) (value : α) :
    (map.insert key value).get? key = some value :=
  lookupEntry_insertEntry_self key value map.entries

theorem get?_insert_of_ne (map : SortedMap κ α) {key other : κ} (h : other ≠ key) (value : α) :
    (map.insert key value).get? other = map.get? other :=
  lookupEntry_insertEntry_of_ne h value map.entries

theorem get?_insert (map : SortedMap κ α) (key other : κ) (value : α) :
    (map.insert key value).get? other = if other = key then some value else map.get? other := by
  split
  · next h => rw [h, get?_insert_self]
  · next h => exact map.get?_insert_of_ne h value

theorem get?_eq_some_iff {map : SortedMap κ α} {key : κ} {value : α} :
    map.get? key = some value ↔ (key, value) ∈ map.entries :=
  lookupEntry_eq_some_iff map.ascending

theorem get?_erase (map : SortedMap κ α) (key other : κ) :
    (map.erase key).get? other = if other = key then none else map.get? other := by
  apply Option.ext
  intro value
  rw [get?_eq_some_iff]
  by_cases h : other = key
  · simp [erase, h]
  · have hrank : rank other ≠ rank key := fun e => h (rank_inj.1 e)
    simp [erase, h, hrank, get?_eq_some_iff]

theorem get?_erase_self (map : SortedMap κ α) (key : κ) : (map.erase key).get? key = none := by
  rw [get?_erase, if_pos rfl]

theorem get?_erase_of_ne (map : SortedMap κ α) {key other : κ} (h : other ≠ key) :
    (map.erase key).get? other = map.get? other := by
  rw [get?_erase, if_neg h]

theorem get?_mapValues (map : SortedMap κ α) (change : κ → α → β) (key : κ) :
    (map.mapValues change).get? key = (map.get? key).map (change key) := by
  apply Option.ext
  intro value
  rw [get?_eq_some_iff]
  simp only [mapValues, List.mem_map, Prod.mk.injEq, Option.map_eq_some_iff, get?_eq_some_iff]
  constructor
  · rintro ⟨⟨other, found⟩, hmem, rfl, rfl⟩
    exact ⟨found, hmem, rfl⟩
  · rintro ⟨found, hmem, rfl⟩
    exact ⟨(key, found), hmem, rfl, rfl⟩

theorem mem_keys_iff {map : SortedMap κ α} {key : κ} :
    key ∈ map.keys ↔ ∃ value, map.get? key = some value := by
  simp [keys, get?_eq_some_iff]

theorem contains_iff {map : SortedMap κ α} {key : κ} :
    map.contains key = true ↔ ∃ value, map.get? key = some value := by
  simp [contains, Option.isSome_iff_exists]

theorem contains_iff_mem_keys {map : SortedMap κ α} {key : κ} :
    map.contains key = true ↔ key ∈ map.keys := by
  rw [contains_iff, mem_keys_iff]

theorem mem_values_iff {map : SortedMap κ α} {value : α} :
    value ∈ map.values ↔ ∃ key, map.get? key = some value := by
  simp [values, get?_eq_some_iff]

theorem keys_ascending (map : SortedMap κ α) :
    map.keys.Pairwise fun lower upper => rank lower < rank upper :=
  List.pairwise_map.2 map.ascending

theorem keys_nodup (map : SortedMap κ α) : map.keys.Nodup :=
  map.keys_ascending.imp fun {lower upper} (hlt : rank lower < rank upper) (heq : lower = upper) =>
    Nat.lt_irrefl _ (heq ▸ hlt)

/-- Each key is bound once, so what is made of its bindings is made of the value found under it. -/
theorem flatMap_entries_of_key (map : SortedMap κ α) (key : κ) (items : α → List β) :
    (map.entries.flatMap fun entry => if entry.1 = key then items entry.2 else []) =
      ((map.get? key).map items).getD [] := by
  have hothers : ∀ entries : List (κ × α), key ∉ entries.map Prod.fst →
      (entries.flatMap fun entry => if entry.1 = key then items entry.2 else []) = [] := by
    intro entries hnot
    refine List.flatMap_eq_nil_iff.2 fun entry hmem => if_neg fun heq => hnot ?_
    exact heq ▸ List.mem_map_of_mem hmem
  cases hget : map.get? key with
  | none =>
    refine hothers _ fun hmem => ?_
    obtain ⟨value, hvalue⟩ := mem_keys_iff.1 hmem
    cases hget.symm.trans hvalue
  | some value =>
    obtain ⟨lower, upper, hentries⟩ := List.append_of_mem (get?_eq_some_iff.1 hget)
    have hnodup := map.keys_nodup
    rw [keys, hentries, List.map_append, List.map_cons] at hnodup
    obtain ⟨-, hrest, hapart⟩ := List.nodup_append.1 hnodup
    have hupper := (List.nodup_cons.1 hrest).1
    have hlower : key ∉ lower.map Prod.fst := fun hmem =>
      hapart key hmem key List.mem_cons_self rfl
    rw [hentries, List.flatMap_append, List.flatMap_cons, hothers lower hlower,
      hothers upper hupper, if_pos rfl, List.append_nil]
    rfl

private theorem entries_eq_of_mem_iff {first second : List (κ × α)}
    (hfirst : first.Pairwise fun lower upper => rank lower.1 < rank upper.1)
    (hsecond : second.Pairwise fun lower upper => rank lower.1 < rank upper.1)
    (h : ∀ entry, entry ∈ first ↔ entry ∈ second) : first = second := by
  induction first generalizing second with
  | nil =>
    cases second with
    | nil => rfl
    | cons head rest => exact absurd ((h head).2 List.mem_cons_self) (by simp)
  | cons head rest ih =>
    cases second with
    | nil => exact absurd ((h head).1 List.mem_cons_self) (by simp)
    | cons other more =>
      obtain ⟨hhead, hrest⟩ := List.pairwise_cons.1 hfirst
      obtain ⟨hother, hmore⟩ := List.pairwise_cons.1 hsecond
      have heq : head = other := by
        rcases List.mem_cons.1 ((h head).1 List.mem_cons_self) with heq | hmem
        · exact heq
        · rcases List.mem_cons.1 ((h other).2 List.mem_cons_self) with heq | hmem'
          · exact heq.symm
          · exact absurd (Nat.lt_trans (hother _ hmem) (hhead _ hmem')) (Nat.lt_irrefl _)
      subst heq
      congr 1
      refine ih hrest hmore fun entry => ?_
      constructor
      · intro hmem
        rcases List.mem_cons.1 ((h entry).1 (List.mem_cons_of_mem _ hmem)) with rfl | hmem'
        · exact absurd (hhead _ hmem) (Nat.lt_irrefl _)
        · exact hmem'
      · intro hmem
        rcases List.mem_cons.1 ((h entry).2 (List.mem_cons_of_mem _ hmem)) with rfl | hmem'
        · exact absurd (hother _ hmem) (Nat.lt_irrefl _)
        · exact hmem'

theorem ext_get? {first second : SortedMap κ α}
    (h : ∀ key, first.get? key = second.get? key) : first = second := by
  refine eq_of_entries (entries_eq_of_mem_iff first.ascending second.ascending ?_)
  rintro ⟨key, value⟩
  rw [← get?_eq_some_iff, ← get?_eq_some_iff, h key]

theorem keys_eq_of_mem_iff {first : SortedMap κ α} {second : SortedMap κ β}
    (h : ∀ key, key ∈ first.keys ↔ key ∈ second.keys) : first.keys = second.keys := by
  have hmaps : first.mapValues (fun _ _ => ()) = second.mapValues fun _ _ => () := by
    apply ext_get?
    intro key
    have hkey := h key
    rw [mem_keys_iff, mem_keys_iff] at hkey
    rw [get?_mapValues, get?_mapValues]
    cases hfirst : first.get? key <;> cases hsecond : second.get? key <;> simp_all
  have hkeys : ∀ {γ : Type} (map : SortedMap κ γ), (map.mapValues fun _ _ => ()).keys = map.keys :=
    fun map => by simp [keys, mapValues]
  rw [← hkeys first, hmaps, hkeys]

theorem mem_keys_insert {map : SortedMap κ α} {key other : κ} {value : α} :
    other ∈ (map.insert key value).keys ↔ other = key ∨ other ∈ map.keys := by
  rw [mem_keys_iff, get?_insert, mem_keys_iff]
  split
  · next heq => exact iff_of_true ⟨value, rfl⟩ (.inl heq)
  · next hne => exact (or_iff_right hne).symm

theorem keys_insert_of_mem {map : SortedMap κ α} {key : κ} (h : key ∈ map.keys) (value : α) :
    (map.insert key value).keys = map.keys :=
  keys_eq_of_mem_iff fun _ => mem_keys_insert.trans
    (or_iff_right_of_imp fun heq => heq ▸ h)

private theorem get?_foldl_insert {list : List (κ × α)} (h : (list.map Prod.fst).Nodup)
    {map : SortedMap κ α} {key : κ} {value : α} :
    (list.foldl (fun map entry => map.insert entry.1 entry.2) map).get? key = some value ↔
      (key, value) ∈ list ∨ key ∉ list.map Prod.fst ∧ map.get? key = some value := by
  induction list generalizing map with
  | nil => simp
  | cons entry rest ih =>
    obtain ⟨hentry, hrest⟩ := List.nodup_cons.1 h
    rw [List.foldl_cons, ih hrest, get?_insert]
    by_cases heq : key = entry.1
    · subst heq
      have hunlisted : (entry.1, value) ∉ rest := fun hmem =>
        hentry (List.mem_map.2 ⟨_, hmem, rfl⟩)
      simp [hentry, hunlisted, Prod.ext_iff, eq_comm]
    · simp [heq, Prod.ext_iff]

/-- A list without repeated keys binds what it says. -/
theorem get?_ofList_eq_some_iff {list : List (κ × α)} (h : (list.map Prod.fst).Nodup) {key : κ}
    {value : α} : (ofList list).get? key = some value ↔ (key, value) ∈ list := by
  rw [ofList, get?_foldl_insert h]
  simp

/-- A list without repeated keys is bound as it is, but for its order. -/
theorem entries_ofList_perm {list : List (κ × α)} (h : (list.map Prod.fst).Nodup) :
    (ofList list).entries.Perm list := by
  have hentries : (ofList list).entries.Nodup :=
    (ofList list).ascending.imp fun {lower upper} (hlt : rank lower.1 < rank upper.1)
      (heq : lower = upper) => Nat.lt_irrefl _ (heq ▸ hlt)
  have hlist : list.Nodup :=
    List.Pairwise.of_map Prod.fst (fun _ _ hkeys heq => hkeys (by rw [heq])) h
  rw [List.perm_ext_iff_of_nodup hentries hlist]
  rintro ⟨key, value⟩
  rw [← get?_eq_some_iff, get?_ofList_eq_some_iff h]

/-! ### Items under keys of their own -/

section OfItems

variable {items : List α} {keyOf : α → κ}

omit [Ranked κ] in
private theorem nodup_keyed (h : (items.map keyOf).Nodup) :
    ((items.map fun item => (keyOf item, item)).map Prod.fst).Nodup := by
  rw [List.map_map]
  exact h

theorem get?_ofList_keyed_eq_some_iff (h : (items.map keyOf).Nodup) {key : κ} {item : α} :
    (ofList (items.map fun item => (keyOf item, item))).get? key = some item ↔
      item ∈ items ∧ keyOf item = key := by
  rw [get?_ofList_eq_some_iff (nodup_keyed h), List.mem_map]
  constructor
  · rintro ⟨other, hmem, heq⟩
    cases heq
    exact ⟨hmem, rfl⟩
  · rintro ⟨hmem, rfl⟩
    exact ⟨item, hmem, rfl⟩

theorem size_ofList_keyed (h : (items.map keyOf).Nodup) :
    (ofList (items.map fun item => (keyOf item, item))).size = items.length := by
  rw [size, (entries_ofList_perm (nodup_keyed h)).length_eq, List.length_map]

end OfItems

end SortedMap

/-- A finite set listed in ascending order. -/
structure SortedSet (κ : Type) [Ranked κ] where
  toMap : SortedMap κ Unit

namespace SortedSet

variable {κ : Type} [Ranked κ]

/-- The set with no member. -/
def empty : SortedSet κ := ⟨.empty⟩

instance : EmptyCollection (SortedSet κ) := ⟨empty⟩

instance : Inhabited (SortedSet κ) := ⟨empty⟩

/-- The members in ascending order. -/
def toList (set : SortedSet κ) : List κ := set.toMap.keys

/-- Whether `key` is a member. -/
def contains (set : SortedSet κ) (key : κ) : Bool := set.toMap.contains key

/-- The set with `key` added. -/
def insert (set : SortedSet κ) (key : κ) : SortedSet κ := ⟨set.toMap.insert key ()⟩

/-- The set with every key of a list added. -/
def insertAll (set : SortedSet κ) (keys : List κ) : SortedSet κ := keys.foldl insert set

/-- The set of the keys of a list. -/
def ofList (keys : List κ) : SortedSet κ := insertAll empty keys

/-- Whether there is no member. -/
def isEmpty (set : SortedSet κ) : Bool := set.toMap.isEmpty

instance : Membership κ (SortedSet κ) := ⟨fun set key => set.contains key = true⟩

theorem mem_iff {set : SortedSet κ} {key : κ} : key ∈ set ↔ set.contains key = true := Iff.rfl

theorem mem_toList_iff {set : SortedSet κ} {key : κ} : key ∈ set.toList ↔ key ∈ set :=
  SortedMap.contains_iff_mem_keys.symm

theorem isEmpty_eq_false_iff {set : SortedSet κ} : set.isEmpty = false ↔ ∃ key, key ∈ set := by
  simp only [← mem_toList_iff, toList, SortedMap.keys, isEmpty, SortedMap.isEmpty]
  cases set.toMap.entries with
  | nil => simp
  | cons entry rest => exact iff_of_true rfl ⟨entry.1, by simp⟩

@[simp] theorem not_mem_empty (key : κ) : ¬ key ∈ (empty : SortedSet κ) := by
  simp [mem_iff, contains, empty, SortedMap.contains]

@[simp] theorem mem_insert_iff {set : SortedSet κ} {key other : κ} :
    other ∈ set.insert key ↔ other = key ∨ other ∈ set := by
  simp only [mem_iff, contains, insert, SortedMap.contains, SortedMap.get?_insert]
  split <;> simp_all

@[simp] theorem mem_insertAll_iff {set : SortedSet κ} {keys : List κ} {other : κ} :
    other ∈ set.insertAll keys ↔ other ∈ keys ∨ other ∈ set := by
  induction keys generalizing set with
  | nil => simp [insertAll]
  | cons key rest ih =>
    rw [insertAll, List.foldl_cons]
    rw [show List.foldl insert (set.insert key) rest = (set.insert key).insertAll rest from rfl, ih,
      mem_insert_iff, List.mem_cons]
    grind

end SortedSet

end CharacterSim
