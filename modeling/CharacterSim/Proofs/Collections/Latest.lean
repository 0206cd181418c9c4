/-! The later end of a list: its last item, what happened since the last of some items, and what is
known of each key to one who hears of pairs in order, a later pair of a key replacing an earlier
one. -/

namespace CharacterSim

/-- The last of a list is met last. -/
theorem concat_eq_append_cons_iff {α : Type} {list earlier later : List α} {last item : α} :
    list ++ [last] = earlier ++ item :: later ↔
      (later = [] ∧ list = earlier ∧ last = item) ∨
        ∃ rest, later = rest ++ [last] ∧ list = earlier ++ item :: rest := by
  constructor
  · intro heq
    rcases List.eq_nil_or_concat later with rfl | ⟨rest, final, rfl⟩
    · obtain ⟨hlist, hlast⟩ := List.append_inj' heq rfl
      exact .inl ⟨rfl, hlist, List.singleton_inj.1 hlast⟩
    · rw [List.concat_eq_append, ← List.cons_append, ← List.append_assoc] at heq
      obtain ⟨hlist, hlast⟩ := List.append_inj' heq rfl
      rw [← List.singleton_inj.1 hlast]
      exact .inr ⟨rest, by simp, hlist⟩
  · rintro (⟨rfl, rfl, rfl⟩ | ⟨rest, rfl, rfl⟩)
    · rfl
    · simp

/-- Something happened since the last reset. -/
def Since {α : Type} (event reset : α → Prop) (list : List α) : Prop :=
  ∃ earlier item later, list = earlier ++ item :: later ∧ event item ∧
    ∀ other ∈ later, ¬ reset other

@[simp] theorem not_since_nil {α : Type} {event reset : α → Prop} : ¬ Since event reset [] := by
  rintro ⟨earlier, item, later, hsplit, -⟩
  simp at hsplit

theorem since_concat {α : Type} {event reset : α → Prop} {list : List α} {last : α} :
    Since event reset (list ++ [last]) ↔ event last ∨ Since event reset list ∧ ¬ reset last := by
  constructor
  · rintro ⟨earlier, item, later, hsplit, hevent, hlater⟩
    rcases concat_eq_append_cons_iff.1 hsplit with ⟨rfl, rfl, rfl⟩ | ⟨rest, rfl, rfl⟩
    · exact .inl hevent
    · refine .inr ⟨⟨earlier, item, rest, rfl, hevent, fun other hmem => ?_⟩, ?_⟩
      · exact hlater other (List.mem_append_left _ hmem)
      · exact hlater last (by simp)
  · rintro (hevent | ⟨⟨earlier, item, later, rfl, hevent, hlater⟩, hnot⟩)
    · exact ⟨list, last, [], rfl, hevent, fun _ hmem => by cases hmem⟩
    · refine ⟨earlier, item, later ++ [last], by simp, hevent, fun other hmem => ?_⟩
      rcases List.mem_append.1 hmem with hmem | hmem
      · exact hlater other hmem
      · exact List.mem_singleton.1 hmem ▸ hnot

/-- What came after the last event, unless there was a reset since. -/
def SinceLast {α : Type} (event reset : α → Prop) (list later : List α) : Prop :=
  ∃ earlier item, list = earlier ++ item :: later ∧ event item ∧
    ∀ other ∈ later, ¬ event other ∧ ¬ reset other

@[simp] theorem not_sinceLast_nil {α : Type} {event reset : α → Prop} {later : List α} :
    ¬ SinceLast event reset [] later := by
  rintro ⟨earlier, item, hsplit, -⟩
  simp at hsplit

theorem sinceLast_concat {α : Type} {event reset : α → Prop} {list later : List α} {last : α} :
    SinceLast event reset (list ++ [last]) later ↔ (later = [] ∧ event last) ∨
      ∃ rest, later = rest ++ [last] ∧ SinceLast event reset list rest ∧
        ¬ event last ∧ ¬ reset last := by
  constructor
  · rintro ⟨earlier, item, hsplit, hevent, hlater⟩
    rcases concat_eq_append_cons_iff.1 hsplit with ⟨rfl, rfl, rfl⟩ | ⟨rest, rfl, rfl⟩
    · exact .inl ⟨rfl, hevent⟩
    · refine .inr ⟨rest, rfl, ⟨earlier, item, rfl, hevent, fun other hmem => ?_⟩, ?_⟩
      · exact hlater other (List.mem_append_left _ hmem)
      · exact hlater last (by simp)
  · rintro (⟨rfl, hevent⟩ | ⟨rest, rfl, ⟨earlier, item, rfl, hevent, hlater⟩, hlast⟩)
    · exact ⟨list, last, rfl, hevent, fun _ hmem => by cases hmem⟩
    · refine ⟨earlier, item, by simp, hevent, fun other hmem => ?_⟩
      rcases List.mem_append.1 hmem with hmem | hmem
      · exact hlater other hmem
      · exact List.mem_singleton.1 hmem ▸ hlast

variable {κ α : Type} [DecidableEq κ]

/-- The value that the last pair of a key has. -/
def latest (pairs : List (κ × α)) (key : κ) : Option α := pairs.reverse.lookup key

@[simp] theorem latest_nil (key : κ) : latest ([] : List (κ × α)) key = none := rfl

theorem latest_append (earlier later : List (κ × α)) (key : κ) :
    latest (earlier ++ later) key = (latest later key).or (latest earlier key) := by
  rw [latest, List.reverse_append, List.lookup_append]
  rfl

theorem latest_eq_none_iff {pairs : List (κ × α)} {key : κ} :
    latest pairs key = none ↔ ∀ pair ∈ pairs, pair.1 ≠ key := by
  rw [latest, List.lookup_eq_none_iff]
  simp only [List.mem_reverse, bne_iff_ne]
  exact forall_congr' fun pair => imp_congr_right fun _ => ne_comm

theorem latest_cons (pair : κ × α) (pairs : List (κ × α)) (key : κ) :
    latest (pair :: pairs) key =
      (latest pairs key).or (if key = pair.1 then some pair.2 else none) := by
  have hfirst : latest [pair] key = if key = pair.1 then some pair.2 else none := by
    obtain ⟨other, value⟩ := pair
    by_cases heq : key = other
    · simp [latest, heq]
    · rw [if_neg heq, latest_eq_none_iff]
      exact List.forall_mem_singleton.2 (Ne.symm heq)
  rw [← List.singleton_append, latest_append, hfirst]

theorem latest_concat (pairs : List (κ × α)) (pair : κ × α) (key : κ) :
    latest (pairs ++ [pair]) key = if key = pair.1 then some pair.2 else latest pairs key := by
  rw [latest_append, latest_cons, latest_nil, Option.none_or]
  split <;> rfl

/-- Where each pair is written over what a state shows under its key, in the end the last pair of a
key is. -/
theorem foldl_eq_latest {σ β : Type} {step : σ → κ × α → σ} (view : σ → κ → β)
    (write : β → α → β) (hstep : ∀ state pair key, view (step state pair) key =
      if key = pair.1 then write (view state key) pair.2 else view state key)
    (hwrite : ∀ value first second, write (write value first) second = write value second)
    (pairs : List (κ × α)) (state : σ) (key : κ) : view (pairs.foldl step state) key =
      ((latest pairs key).map (write (view state key))).getD (view state key) := by
  induction pairs generalizing state with
  | nil => rfl
  | cons pair rest ih =>
    rw [List.foldl_cons, ih, hstep, latest_cons]
    cases latest rest key with
    | none =>
      split
      · rfl
      · rfl
    | some value =>
      split
      · exact hwrite _ _ _
      · rfl

/-- When all that is said of a key is the same, that is what is known of it. -/
theorem latest_eq_some {pairs : List (κ × α)} {key : κ} {value : α} (hmem : (key, value) ∈ pairs)
    (hsame : ∀ other, (key, other) ∈ pairs → other = value) : latest pairs key = some value := by
  cases hlatest : latest pairs key with
  | none => exact absurd rfl (latest_eq_none_iff.1 hlatest _ hmem)
  | some other =>
    obtain ⟨before, after, hsplit, -⟩ := List.lookup_eq_some_iff.1 hlatest
    rw [hsame other (List.mem_reverse.1 (hsplit ▸ by simp))]

/-- Where no key is met twice, the order of the pairs makes no difference. -/
theorem latest_eq_of_perm {first second : List (κ × α)} (hdistinct : (first.map Prod.fst).Nodup)
    (hperm : first.Perm second) (key : κ) : latest first key = latest second key := by
  induction hperm with
  | nil => rfl
  | cons pair _ ih => rw [latest_cons, latest_cons, ih (List.nodup_cons.1 hdistinct).2]
  | swap earlier later rest =>
    have hne : later.1 ≠ earlier.1 := fun heq =>
      (List.nodup_cons.1 hdistinct).1 (heq ▸ List.mem_cons_self)
    simp only [latest_cons, Option.or_assoc]
    split
    · next heq => rw [if_neg (heq ▸ hne.symm), Option.none_or, Option.or_none]
    · rw [Option.none_or, Option.or_none]
  | trans hfirst _ ihfirst ihsecond =>
    rw [ihfirst hdistinct, ihsecond ((hfirst.map _).nodup_iff.1 hdistinct)]

/-- What is known after a report on each of some keys that have a value. -/
theorem latest_filterMap (keys : List κ) (value? : κ → Option α) (key : κ) :
    latest (keys.filterMap fun key => (value? key).map (key, ·)) key =
      if key ∈ keys then value? key else none := by
  have hmem : ∀ value, (key, value) ∈ keys.filterMap (fun key => (value? key).map (key, ·)) ↔
      key ∈ keys ∧ value? key = some value := by
    intro value
    simp only [List.mem_filterMap, Option.map_eq_some_iff, Prod.mk.injEq]
    constructor
    · rintro ⟨other, hother, found, hfound, rfl, rfl⟩
      exact ⟨hother, hfound⟩
    · rintro ⟨hkey, hvalue⟩
      exact ⟨key, hkey, value, hvalue, rfl, rfl⟩
  cases hvalue : (if key ∈ keys then value? key else none) with
  | some value =>
    have hlisted : key ∈ keys ∧ value? key = some value := by
      split at hvalue
      · next hkey => exact ⟨hkey, hvalue⟩
      · cases hvalue
    refine latest_eq_some ((hmem value).2 hlisted) fun other hother => ?_
    exact Option.some.inj (((hmem other).1 hother).2.symm.trans hlisted.2)
  | none =>
    refine latest_eq_none_iff.2 ?_
    rintro ⟨other, value⟩ hpair rfl
    obtain ⟨hkey, hsome⟩ := (hmem value).1 hpair
    rw [if_pos hkey, hsome] at hvalue
    cases hvalue

end CharacterSim
