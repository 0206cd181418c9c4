import CharacterSim.Attribute.Modifier
import Mathlib.Data.List.Basic

/-! The order in which the kinds of modifiers act. Flat amounts and increases act before any factor,
whenever they were contributed. The factors act in the order they were contributed, be they above one or
below, and rounding tells that from an order by kind as soon as one below one comes before one above. -/

namespace CharacterSim

namespace Modifier

inductive Kind where
  | flat
  | increased
  | more
  | less
  deriving DecidableEq

def kind : Modifier → Kind
  | flat _ => .flat
  | increased _ => .increased
  | more _ => .more
  | less _ => .less

/-- The factor that a contribution of the given kind acts by on its own. -/
def factorOf? (kind : Kind) (modifier : Modifier) : Option Float :=
  if modifier.kind = kind then modifier.factor? else none

/-- A contribution of the given kind that leaves ordinary values as they are. -/
def neutral : Kind → Modifier
  | .flat => flat (-0.0)
  | .increased => increased (-0.0)
  | .more => more 0.0
  | .less => less 0.0

/-- Like `neutral`, but with factors whose order can be told from their product. -/
def telling : Kind → Modifier
  | .more => more 20.0
  | .less => less 10.0
  | kind => neutral kind

@[simp] theorem kind_neutral (kind : Kind) : (neutral kind).kind = kind := by cases kind <;> rfl

@[simp] theorem kind_telling (kind : Kind) : (telling kind).kind = kind := by cases kind <;> rfl

theorem factor?_neutral {kind : Kind} {factor : Float} (h : (neutral kind).factor? = some factor) :
    factor = 1.0 := by
  cases kind with
  | flat | increased => cases h
  | more =>
    cases h
    decide +kernel
  | less =>
    cases h
    decide +kernel

theorem flatAmount?_eq_none {modifier : Modifier} (h : modifier.kind ≠ .flat) :
    modifier.flatAmount? = none := by
  cases modifier with
  | flat amount => exact absurd rfl h
  | _ => rfl

theorem increasedPercent?_eq_none {modifier : Modifier} (h : modifier.kind ≠ .increased) :
    modifier.increasedPercent? = none := by
  cases modifier with
  | increased percent => exact absurd rfl h
  | _ => rfl

end Modifier

namespace ModifierStack

open Modifier (Kind factorOf? neutral telling)

variable {stack other : ModifierStack} {modifiers : List Modifier}

/-- The kinds of the contributions in the order they were made. -/
def kinds (stack : ModifierStack) : List Kind := stack.modifiers.map Modifier.kind

/-- The value before any factor that acts on its own. -/
def scaled (stack : ModifierStack) (value : Float) : Float :=
  (value + Amount.sum (stack.modifiers.filterMap Modifier.flatAmount?)) *
    (1.0 + Amount.sum (stack.modifiers.filterMap Modifier.increasedPercent?) / 100.0)

/-- The value with every contribution, the kinds one after the other: the flat amounts, the increases
as one factor, each factor above one, and then each below. -/
def applyByKind (stack : ModifierStack) (value : Float) : Float :=
  let raised := (stack.modifiers.filterMap (factorOf? .more)).foldl (· * ·) (stack.scaled value)
  (stack.modifiers.filterMap (factorOf? .less)).foldl (· * ·) raised

/-- The contributions of one kind. -/
def ofKind (kind : Kind) (modifiers : List Modifier) : List Modifier :=
  modifiers.filter (·.kind = kind)

/-- The stacks differ at most in how contributions of one kind stand to those of another. -/
def SameByKind (stack other : ModifierStack) : Prop :=
  ∀ kind, ofKind kind stack.modifiers = ofKind kind other.modifiers

theorem apply_eq_foldl (value : Float) : stack.apply value =
    (stack.modifiers.filterMap Modifier.factor?).foldl (· * ·) (stack.scaled value) := rfl

/-! ### Reading one kind -/

@[simp] theorem ofKind_append (kind : Kind) (earlier later : List Modifier) :
    ofKind kind (earlier ++ later) = ofKind kind earlier ++ ofKind kind later :=
  List.filter_append ..

@[simp] theorem ofKind_ofKind (first second : Kind) : ofKind second (ofKind first modifiers) =
    if first = second then ofKind second modifiers else [] := by
  rw [ofKind, ofKind, ofKind, List.filter_filter]
  split
  · next heq =>
    subst heq
    simp
  · next hne =>
    refine List.filter_eq_nil_iff.2 fun modifier _ => ?_
    simp only [Bool.and_eq_true, decide_eq_true_eq, not_and]
    exact fun hsecond hfirst => hne (hfirst.symm.trans hsecond)

/-- What is read off one kind only is the same without the other kinds. -/
theorem filterMap_ofKind {read : Modifier → Option Float} {kind : Kind}
    (h : ∀ modifier, modifier.kind ≠ kind → read modifier = none) :
    (ofKind kind modifiers).filterMap read = modifiers.filterMap read := by
  rw [ofKind, List.filterMap_filter]
  refine List.filterMap_congr fun modifier _ => ?_
  split
  · rfl
  · next hkind => exact (h modifier (by simpa using hkind)).symm

theorem SameByKind.filterMap_eq (h : SameByKind stack other) {read : Modifier → Option Float}
    {kind : Kind} (hread : ∀ modifier, modifier.kind ≠ kind → read modifier = none) :
    stack.modifiers.filterMap read = other.modifiers.filterMap read := by
  rw [← filterMap_ofKind hread, h kind, filterMap_ofKind hread]

theorem SameByKind.scaled_eq (h : SameByKind stack other) (value : Float) :
    stack.scaled value = other.scaled value := by
  have hflat := h.filterMap_eq fun _ => Modifier.flatAmount?_eq_none
  have hincreased := h.filterMap_eq fun _ => Modifier.increasedPercent?_eq_none
  rw [scaled, scaled, hflat, hincreased]

theorem SameByKind.factors_eq (h : SameByKind stack other) (kind : Kind) :
    stack.modifiers.filterMap (factorOf? kind) = other.modifiers.filterMap (factorOf? kind) :=
  h.filterMap_eq fun _ hkind => if_neg hkind

/-- How the kinds stand to each other makes no difference when they act one after the other. -/
theorem SameByKind.applyByKind_eq (h : SameByKind stack other) (value : Float) :
    stack.applyByKind value = other.applyByKind value := by
  rw [applyByKind, applyByKind, h.scaled_eq, h.factors_eq, h.factors_eq]

/-- Where no factor below one comes before one above, the factors stand by kind already. -/
theorem filterMap_factor?_of_ordered (h : ¬ [.less, .more].Sublist (modifiers.map Modifier.kind)) :
    modifiers.filterMap Modifier.factor? =
      modifiers.filterMap (factorOf? .more) ++ modifiers.filterMap (factorOf? .less) := by
  induction modifiers with
  | nil => rfl
  | cons modifier rest ih =>
    have hrest := ih fun hsub => h (hsub.cons _)
    cases modifier with
    | flat amount | increased amount | more percent =>
      simpa [List.filterMap_cons, factorOf?, Modifier.factor?, Modifier.kind] using hrest
    | less percent =>
      have hnone : rest.filterMap (factorOf? .more) = [] := by
        refine List.filterMap_eq_nil_iff.2 fun other hmem => if_neg fun hkind => h ?_
        exact List.Sublist.cons_cons _ (List.singleton_sublist.2 (List.mem_map.2 ⟨other, hmem, hkind⟩))
      rw [hnone, List.nil_append] at hrest
      simp [factorOf?, Modifier.factor?, Modifier.kind, hnone, hrest]

theorem apply_of_ordered (h : ¬ [.less, .more].Sublist stack.kinds) (value : Float) :
    stack.apply value = stack.applyByKind value := by
  rw [apply_eq_foldl, filterMap_factor?_of_ordered h, List.foldl_append, applyByKind]

/-! ### Rearranging a stack -/

/-- The same contributions with the factors of one kind last and those of another before them. -/
def arranged (stack : ModifierStack) (first second : Kind) : ModifierStack :=
  ⟨[.flat, .increased, first, second].flatMap fun kind => stack.entries.filter (·.2.kind = kind)⟩

theorem modifiers_arranged (first second : Kind) : (stack.arranged first second).modifiers =
    [.flat, .increased, first, second].flatMap fun kind => ofKind kind stack.modifiers := by
  simp only [arranged, modifiers, ofKind, List.map_flatMap, List.filter_map]
  rfl

/-- The two kinds of factors, in one order or the other. -/
def Factors (first second : Kind) : Prop :=
  first = .more ∧ second = .less ∨ first = .less ∧ second = .more

theorem Factors.symm {first second : Kind} (h : Factors first second) : Factors second first :=
  h.elim (fun h => .inr ⟨h.2, h.1⟩) fun h => .inl ⟨h.2, h.1⟩

theorem Factors.ne {first second : Kind} (h : Factors first second) : first ≠ second := by
  rcases h with ⟨rfl, rfl⟩ | ⟨rfl, rfl⟩ <;> decide

theorem sameByKind_arranged {first second : Kind} (h : Factors first second) :
    SameByKind (stack.arranged first second) stack := by
  intro kind
  rw [modifiers_arranged]
  rcases h with ⟨rfl, rfl⟩ | ⟨rfl, rfl⟩ <;> cases kind <;> simp

theorem filterMap_factor?_ofKind (kind : Kind) :
    (ofKind kind modifiers).filterMap Modifier.factor? = modifiers.filterMap (factorOf? kind) := by
  rw [ofKind, List.filterMap_filter]
  refine List.filterMap_congr fun modifier _ => ?_
  simp only [factorOf?, decide_eq_true_eq]

/-- The factors of a stack that is put in order act by kind. -/
theorem apply_arranged {first second : Kind} (h : Factors first second) (value : Float) :
    (stack.arranged first second).apply value =
      (stack.modifiers.filterMap (factorOf? second)).foldl (· * ·)
        ((stack.modifiers.filterMap (factorOf? first)).foldl (· * ·) (stack.scaled value)) := by
  have hflat : stack.modifiers.filterMap (factorOf? .flat) = [] :=
    List.filterMap_eq_nil_iff.2 fun modifier _ => by cases modifier <;> rfl
  have hincreased : stack.modifiers.filterMap (factorOf? .increased) = [] :=
    List.filterMap_eq_nil_iff.2 fun modifier _ => by cases modifier <;> rfl
  rw [apply_eq_foldl, (sameByKind_arranged h).scaled_eq, modifiers_arranged]
  simp only [List.flatMap_cons, List.flatMap_nil, List.filterMap_append, filterMap_factor?_ofKind,
    hflat, hincreased, List.nil_append, List.append_nil, List.foldl_append]

/-- On a stack that is put in order, the order contributed is the order by kind. -/
theorem apply_arranged_more_less (value : Float) :
    (stack.arranged .more .less).apply value = stack.applyByKind value :=
  apply_arranged (.inl ⟨rfl, rfl⟩) value

/-! ### Two factors among neutral contributions -/

/-- Contributions of the given kinds, two of which tell in which order they act. -/
def spaced (before : List Kind) (first : Kind) (between : List Kind) (second : Kind)
    (after : List Kind) : ModifierStack :=
  ⟨((before.map neutral ++ telling first :: between.map neutral) ++
    telling second :: after.map neutral).map fun modifier => (⟨0⟩, modifier)⟩

variable {before between after : List Kind} {first second : Kind}

theorem modifiers_spaced : (spaced before first between second after).modifiers =
    (before.map neutral ++ telling first :: between.map neutral) ++
      telling second :: after.map neutral :=
  (List.map_map ..).trans (List.map_id _)

theorem kinds_spaced : (spaced before first between second after).kinds =
    (before ++ first :: between) ++ second :: after := by
  have hneutral : Modifier.kind ∘ neutral = id := funext Modifier.kind_neutral
  simp [kinds, modifiers_spaced, hneutral]

theorem sum_of_negative_zeros {terms : List Float} (h : ∀ term ∈ terms, term = -0.0) :
    Amount.sum terms = -0.0 := by
  have hstep : (-0.0 : Float) + -0.0 = -0.0 := by decide +kernel
  unfold Amount.sum
  induction terms with
  | nil => rfl
  | cons term rest ih =>
    obtain ⟨rfl, hrest⟩ := List.forall_mem_cons.1 h
    rw [List.foldl_cons, hstep, ih hrest]

theorem sum_spaced {read : Modifier → Option Float}
    (hneutral : ∀ kind amount, read (neutral kind) = some amount → amount = -0.0)
    (htelling : ∀ kind amount, read (telling kind) = some amount → amount = -0.0) :
    Amount.sum ((spaced before first between second after).modifiers.filterMap read) = -0.0 := by
  apply sum_of_negative_zeros
  intro amount hmem
  obtain ⟨modifier, hmodifier, hread⟩ := List.mem_filterMap.1 hmem
  rw [modifiers_spaced] at hmodifier
  simp only [List.mem_append, List.mem_cons, List.mem_map] at hmodifier
  rcases hmodifier with (⟨kind, -, rfl⟩ | rfl | ⟨kind, -, rfl⟩) | rfl | ⟨kind, -, rfl⟩
  · exact hneutral kind amount hread
  · exact htelling first amount hread
  · exact hneutral kind amount hread
  · exact htelling second amount hread
  · exact hneutral kind amount hread

/-- Nothing acts on the value before the factors do. -/
theorem scaled_spaced : (spaced before first between second after).scaled 10.0 = 10.0 := by
  have hflat : Amount.sum ((spaced before first between second after).modifiers.filterMap
      Modifier.flatAmount?) = -0.0 :=
    sum_spaced (fun kind _ h => by cases kind <;> cases h; rfl)
      fun kind _ h => by cases kind <;> cases h; rfl
  have hincreased : Amount.sum ((spaced before first between second after).modifiers.filterMap
      Modifier.increasedPercent?) = -0.0 :=
    sum_spaced (fun kind _ h => by cases kind <;> cases h; rfl)
      fun kind _ h => by cases kind <;> cases h; rfl
  rw [scaled, hflat, hincreased]
  decide +kernel

theorem foldl_of_ones {factors : List Float} {value : Float}
    (hfactors : ∀ factor ∈ factors, factor = 1.0) (hvalue : value * 1.0 = value) :
    factors.foldl (· * ·) value = value := by
  induction factors with
  | nil => rfl
  | cons factor rest ih =>
    obtain ⟨rfl, hrest⟩ := List.forall_mem_cons.1 hfactors
    rw [List.foldl_cons, hvalue, ih hrest]

/-- A factor acts as if it were alone when all others are one. -/
theorem foldl_filterMap_single {read : Modifier → Option Float} {earlier later : List Modifier}
    {modifier : Modifier} {value factor : Float} (hread : read modifier = some factor)
    (hearlier : ∀ other ∈ earlier, ∀ factor, read other = some factor → factor = 1.0)
    (hlater : ∀ other ∈ later, ∀ factor, read other = some factor → factor = 1.0)
    (hvalue : value * 1.0 = value) (hproduct : value * factor * 1.0 = value * factor) :
    ((earlier ++ modifier :: later).filterMap read).foldl (· * ·) value = value * factor := by
  have hones : ∀ {others : List Modifier},
      (∀ other ∈ others, ∀ factor, read other = some factor → factor = 1.0) →
        ∀ factor ∈ others.filterMap read, factor = 1.0 := by
    intro others hothers factor hmem
    obtain ⟨other, hother, hfactor⟩ := List.mem_filterMap.1 hmem
    exact hothers other hother factor hfactor
  rw [List.filterMap_append, List.filterMap_cons_some hread, List.foldl_append, List.foldl_cons,
    foldl_of_ones (hones hearlier) hvalue, foldl_of_ones (hones hlater) hproduct]

/-- The factor of a telling contribution. -/
def weight : Kind → Float
  | .more => 1.0 + 20.0 / 100.0
  | .less => 1.0 - 10.0 / 100.0
  | _ => 1.0

/-- Rounding leaves a trace of the order of the two factors, and of no factor that is one. -/
theorem weight_order (h : Factors first second) :
    (∀ value ∈ [10.0, 10.0 * weight first, 10.0 * weight first * weight second],
      value * 1.0 = value) ∧
    10.0 * weight first * weight second ≠ 10.0 * weight second * weight first := by
  rcases h with ⟨rfl, rfl⟩ | ⟨rfl, rfl⟩ <;> decide +kernel

theorem factor?_telling (h : Factors first second) :
    (telling first).factor? = some (weight first) := by
  rcases h with ⟨rfl, rfl⟩ | ⟨rfl, rfl⟩ <;> rfl

theorem eq_one_of_mem_neutral (kinds : List Kind) {modifier : Modifier}
    (h : modifier ∈ kinds.map neutral) {factor : Float} (hfactor : modifier.factor? = some factor) :
    factor = 1.0 := by
  obtain ⟨kind, -, rfl⟩ := List.mem_map.1 h
  exact Modifier.factor?_neutral hfactor

theorem apply_spaced (h : Factors first second) :
    (spaced before first between second after).apply 10.0 = 10.0 * weight first * weight second := by
  obtain ⟨hexact, -⟩ := weight_order h
  simp only [List.forall_mem_cons] at hexact
  obtain ⟨hstart, hfirst, hboth, -⟩ := hexact
  have hearlier := foldl_filterMap_single (factor?_telling h)
    (fun _ hmem _ => eq_one_of_mem_neutral before hmem)
    (fun _ hmem _ => eq_one_of_mem_neutral between hmem) hstart hfirst
  have hlater := foldl_filterMap_single (factor?_telling h.symm)
    (fun _ hmem => absurd hmem List.not_mem_nil)
    (fun _ hmem _ => eq_one_of_mem_neutral after hmem) hfirst hboth
  rw [apply_eq_foldl, scaled_spaced, modifiers_spaced, List.filterMap_append, List.foldl_append,
    hearlier]
  exact hlater

theorem factorOf?_telling (h : Factors first second) :
    factorOf? first (telling first) = some (weight first) := by
  rw [factorOf?, if_pos (Modifier.kind_telling first), factor?_telling h]

theorem mem_marked (earlier later : List Kind) {kind : Kind} {modifier : Modifier}
    (h : modifier ∈ earlier.map neutral ++ telling kind :: later.map neutral) :
    (∃ kinds : List Kind, modifier ∈ kinds.map neutral) ∨ modifier = telling kind := by
  rcases List.mem_append.1 h with h | h
  · exact .inl ⟨earlier, h⟩
  · rcases List.mem_cons.1 h with rfl | h
    · exact .inr rfl
    · exact .inl ⟨later, h⟩

/-- Of the factors of one kind, only the telling one is not one. -/
theorem factorOf?_eq_one (h : Factors first second) {modifier : Modifier}
    (hmodifier : (∃ kinds : List Kind, modifier ∈ kinds.map neutral) ∨ modifier = telling second)
    {factor : Float}
    (hfactor : factorOf? first modifier = some factor) : factor = 1.0 := by
  unfold factorOf? at hfactor
  split at hfactor
  · next hkind =>
    rcases hmodifier with ⟨kinds, hmem⟩ | rfl
    · exact eq_one_of_mem_neutral kinds hmem hfactor
    · exact absurd (hkind.symm.trans (Modifier.kind_telling second)) h.ne
  · cases hfactor

/-- Put in the other order, the factors act in the other order. -/
theorem apply_arranged_spaced (h : Factors first second) :
    ((spaced before first between second after).arranged second first).apply 10.0 =
      10.0 * weight second * weight first := by
  obtain ⟨hexact, -⟩ := weight_order h.symm
  simp only [List.forall_mem_cons] at hexact
  obtain ⟨hstart, hsecond, hboth, -⟩ := hexact
  have hinner := foldl_filterMap_single (factorOf?_telling h.symm)
    (fun _ hmem _ => factorOf?_eq_one h.symm (mem_marked before between hmem))
    (fun _ hmem _ => factorOf?_eq_one h.symm (.inl ⟨after, hmem⟩)) hstart hsecond
  have houter := foldl_filterMap_single (factorOf?_telling h)
    (fun _ hmem _ => factorOf?_eq_one h (.inl ⟨before, hmem⟩))
    (fun _ hmem _ => factorOf?_eq_one h (mem_marked between after hmem))
    hsecond hboth
  rw [apply_arranged h.symm, scaled_spaced, modifiers_spaced, hinner, List.append_assoc,
    List.cons_append]
  exact houter

/-- Wherever a stack has two factors of different kinds, there are amounts for which their order
matters. -/
theorem exists_apply_arranged_ne (h : Factors first second) {kinds : List Kind}
    (hsub : [first, second].Sublist kinds) : ∃ stack : ModifierStack, stack.kinds = kinds ∧
      (stack.arranged second first).apply 10.0 ≠ stack.apply 10.0 := by
  obtain ⟨earlier, later, rfl, hfirst, hsecond⟩ := List.cons_sublist_iff.1 hsub
  obtain ⟨before, between, rfl⟩ := List.append_of_mem hfirst
  obtain ⟨between', after, rfl⟩ := List.append_of_mem (List.singleton_sublist.1 hsecond)
  refine ⟨spaced before first (between ++ between') second after, ?_, ?_⟩
  · rw [kinds_spaced]
    simp
  · rw [apply_arranged_spaced h, apply_spaced h]
    exact (weight_order h).2.symm

/-! ### Which stacks act by kind -/

theorem SameByKind.mem_kinds_iff (h : SameByKind stack other) {kind : Kind} :
    kind ∈ stack.kinds ↔ kind ∈ other.kinds := by
  have hmem : ∀ {some : ModifierStack}, kind ∈ some.kinds ↔ ofKind kind some.modifiers ≠ [] := by
    intro some
    rw [kinds, List.mem_map, ofKind, ne_eq, List.filter_eq_nil_iff]
    simp
  rw [hmem, hmem, h kind]

theorem not_sublist_of_not_mem {kinds : List Kind} (h : ¬ (Kind.more ∈ kinds ∧ Kind.less ∈ kinds)) :
    ¬ [.less, .more].Sublist kinds :=
  fun hsub => h ⟨hsub.subset (by simp), hsub.subset (by simp)⟩

theorem exists_factors_sublist {kinds : List Kind} (hmore : Kind.more ∈ kinds)
    (hless : Kind.less ∈ kinds) :
    ∃ first second, Factors first second ∧ [first, second].Sublist kinds := by
  obtain ⟨before, after, rfl⟩ := List.append_of_mem hmore
  rcases List.mem_append.1 hless with hbefore | hafter
  · have hsub : [Kind.less, .more].Sublist (before ++ .more :: after) :=
      (List.singleton_sublist.2 hbefore).append (List.singleton_sublist.2 List.mem_cons_self)
    exact ⟨_, _, .inr ⟨rfl, rfl⟩, hsub⟩
  · have hrest : Kind.less ∈ after := (List.mem_cons.1 hafter).resolve_left (by decide)
    have hsub : [Kind.more, .less].Sublist (.more :: after) :=
      List.Sublist.cons_cons _ (List.singleton_sublist.2 hrest)
    exact ⟨_, _, .inl ⟨rfl, rfl⟩, hsub.trans (List.sublist_append_right _ _)⟩

/-- Whatever the amounts, a stack acts by kind exactly when no factor below one comes before one above;
and to rearrange it without disturbing the order within a kind makes no difference exactly when it does
not have factors of both kinds. -/
theorem apply_by_kind_iff (kinds : List Kind) :
    ((∀ stack : ModifierStack, stack.kinds = kinds →
        ∀ value, stack.apply value = stack.applyByKind value) ↔
      ¬ [.less, .more].Sublist kinds) ∧
    ((∀ stack other : ModifierStack, stack.kinds = kinds → SameByKind other stack →
        ∀ value, other.apply value = stack.apply value) ↔
      ¬ (Kind.more ∈ kinds ∧ Kind.less ∈ kinds)) := by
  refine ⟨⟨fun hall hsub => ?_, ?_⟩, ⟨fun hall hboth => ?_, ?_⟩⟩
  · obtain ⟨stack, hkinds, hne⟩ := exists_apply_arranged_ne (.inr ⟨rfl, rfl⟩) hsub
    rw [apply_arranged_more_less, hall stack hkinds] at hne
    exact hne rfl
  · rintro hordered stack rfl value
    exact apply_of_ordered hordered value
  · obtain ⟨first, second, hfactors, hsub⟩ := exists_factors_sublist hboth.1 hboth.2
    obtain ⟨stack, hkinds, hne⟩ := exists_apply_arranged_ne hfactors hsub
    exact hne (hall stack _ hkinds (sameByKind_arranged hfactors.symm) 10.0)
  · rintro hfree stack other rfl hsame value
    have hother : ¬ (Kind.more ∈ other.kinds ∧ Kind.less ∈ other.kinds) := by
      rwa [hsame.mem_kinds_iff, hsame.mem_kinds_iff]
    rw [apply_of_ordered (not_sublist_of_not_mem hother), hsame.applyByKind_eq,
      apply_of_ordered (not_sublist_of_not_mem hfree)]

/-- Half as much again and then a tenth off, of fifteen and a fifth more. -/
theorem apply_by_kind_of_ordered :
    (ModifierStack.mk [(⟨1⟩, .flat 5.0), (⟨2⟩, .more 50.0), (⟨1⟩, .increased 20.0),
      (⟨2⟩, .less 10.0)]).apply 10.0 =
    (ModifierStack.mk [(⟨1⟩, .flat 5.0), (⟨2⟩, .more 50.0), (⟨1⟩, .increased 20.0),
      (⟨2⟩, .less 10.0)]).applyByKind 10.0 :=
  (apply_by_kind_iff [.flat, .more, .increased, .less]).1.2 (by decide) _ rfl 10.0

/-- A tenth off and then a fifth more is not quite a fifth more and then a tenth off. -/
theorem apply_not_by_kind_of_less_first :
    (ModifierStack.mk [(⟨1⟩, .less 10.0), (⟨1⟩, .more 20.0)]).apply 10.0 ≠
      (ModifierStack.mk [(⟨1⟩, .less 10.0), (⟨1⟩, .more 20.0)]).applyByKind 10.0 ∧
    (ModifierStack.mk [(⟨1⟩, .less 10.0), (⟨1⟩, .more 20.0)]).applyByKind 10.0 = 10.8 := by
  decide +kernel

end ModifierStack

end CharacterSim
